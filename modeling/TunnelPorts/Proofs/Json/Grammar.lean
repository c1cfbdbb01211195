import TunnelPorts.Json.Level
import TunnelPorts.Proofs.Json.Scan
import TunnelPorts.Proofs.Number.Nearest

/-!
The grammar of JSON texts, without regard to how they are read. Values that are skipped have a form
and nothing else. The levels of a document have a meaning, too: it is the document that they spell.
-/

namespace TunnelPorts

namespace Json

namespace Number

def digit (c : Char) : Nat :=
  c.toNat - '0'.toNat

-- The number that digits spell if they stand behind the number `n`.
def value (n : Nat) (ds : List Char) : Nat :=
  ds.foldl (fun n d => n * 10 + digit d) n

-- The digits that can be put behind the number `n`, as long as it is one of 64 bits.
def fitting (n : Nat) : List Char → List Char
  | []      => []
  | d :: ds => if n * 10 + digit d < 2 ^ 64 then d :: fitting (n * 10 + digit d) ds else []

structure Exponent where
  mark : Char
  sign? : Option Char
  digits : List Char

structure Numeral where
  negative : Bool
  integer : List Char
  fraction? : Option (List Char)
  exponent? : Option Exponent

def IsDigits (ds : List Char) : Prop :=
  ds ≠ [] ∧ ∀ d ∈ ds, d.isDigit

namespace Exponent

def text (e : Exponent) : List Char :=
  e.mark :: e.sign?.toList ++ e.digits

structure WellFormed (e : Exponent) : Prop where
  mark   : e.mark = 'e' ∨ e.mark = 'E'
  sign   : ∀ c ∈ e.sign?, c = '+' ∨ c = '-'
  digits : IsDigits e.digits

end Exponent

namespace Numeral

def fractionText (n : Numeral) : List Char :=
  n.fraction?.elim [] ('.' :: ·)

def exponentText (n : Numeral) : List Char :=
  n.exponent?.elim [] Exponent.text

def unsigned (n : Numeral) : List Char :=
  n.integer ++ n.fractionText ++ n.exponentText

def text (n : Numeral) : List Char :=
  if n.negative then '-' :: n.unsigned else n.unsigned

-- Only the number zero begins with a zero.
structure WellFormed (n : Numeral) : Prop where
  integer  : n.integer = ['0'] ∨ IsDigits n.integer ∧ n.integer.head? ≠ some '0'
  fraction : ∀ ds ∈ n.fraction?, IsDigits ds
  exponent : ∀ e ∈ n.exponent?, e.WellFormed

-- The digits before the point that count, and those behind it.
def integerDigits (n : Numeral) : List Char :=
  fitting 0 n.integer

def fractionDigits (n : Numeral) : List Char :=
  fitting (value 0 n.integerDigits) (n.fraction?.getD [])

def significand (n : Numeral) : Nat :=
  value 0 (n.integerDigits ++ n.fractionDigits)

-- The power of ten that goes with the significand, but for the exponent.
def scale (n : Numeral) : Int :=
  (n.integer.length - n.integerDigits.length) - n.fractionDigits.length

end Numeral

-- A significand is multiplied by a power of ten the way readers do it: as doubles. Each of the two
-- is rounded, and so is their product, which must stay below the first power of two that no double
-- reaches. Powers of ten end at the 308th; dividing by them is always possible. For a number about
-- as large as the last double this is not the same as to ask whether the number itself is rounded to
-- a double.
def IsFinite (significand : Nat) (power : Int) : Prop :=
  significand = 0 ∨ power < 0 ∨
    power ≤ 308 ∧ ∃ f p product, Binary64.IsNearest significand f ∧
      Binary64.IsNearest (10 ^ power.toNat) p ∧ Binary64.IsNearest (f * p) product ∧
      product < 2 ^ 1024

-- An exponent of more than 31 bits is infinite itself.
def Numeral.InRange (n : Numeral) : Prop :=
  match n.exponent? with
  | none   => IsFinite n.significand n.scale
  | some e =>
    let power := value 0 e.digits
    if power < 2 ^ 31 then
      IsFinite n.significand (if e.sign? = some '-' then n.scale - power else n.scale + power)
    else n.significand = 0 ∨ e.sign? = some '-'

end Number

namespace Text

-- What can stand between quotes as it is.
def IsPlain (c : Char) : Prop :=
  c ≠ '"' ∧ c ≠ '\\' ∧ ' ' ≤ c

def escapes : List (Char × Char) :=
  [('"', '"'), ('\\', '\\'), ('/', '/'), ('b', '\x08'), ('f', '\x0c'), ('n', '\n'), ('r', '\r'),
    ('t', '\t')]

-- Four hexadecimal digits and the number they spell.
def IsCode (cs : List Char) (n : Nat) : Prop :=
  cs.length = 4 ∧ (∀ c ∈ cs, TunnelPorts.Text.isHexDigit c) ∧ TunnelPorts.Text.ofDigits 16 cs = n

-- The characters that are spelled between quotes. A code of half a surrogate pair spells nothing.
inductive Spells : List Char → List Char → Prop
  | nil : Spells [] []
  | plain {c cs ds} : IsPlain c → Spells cs ds → Spells (c :: cs) (c :: ds)
  | escape {c d cs ds} : (c, d) ∈ escapes → Spells cs ds → Spells ('\\' :: c :: cs) (d :: ds)
  | code {hs n cs ds} : IsCode hs n → ¬(0xD800 ≤ n ∧ n ≤ 0xDFFF) → Spells cs ds →
    Spells ('\\' :: 'u' :: hs ++ cs) (.ofNat n :: ds)
  | pair {hs m ls n cs ds} : IsCode hs m → 0xD800 ≤ m ∧ m ≤ 0xDBFF →
    IsCode ls n → 0xDC00 ≤ n ∧ n ≤ 0xDFFF → Spells cs ds →
    Spells ('\\' :: 'u' :: hs ++ '\\' :: 'u' :: ls ++ cs)
      (.ofNat (0x10000 + (m - 0xD800) * 0x400 + (n - 0xDC00)) :: ds)

-- The same without a meaning: any code will do.
inductive Shaped : List Char → Prop
  | nil : Shaped []
  | plain {c cs} : IsPlain c → Shaped cs → Shaped (c :: cs)
  | escape {c d cs} : (c, d) ∈ escapes → Shaped cs → Shaped ('\\' :: c :: cs)
  | code {hs n cs} : IsCode hs n → Shaped cs → Shaped ('\\' :: 'u' :: hs ++ cs)

end Text

def quoted (body : List Char) : List Char :=
  '"' :: body ++ ['"']

-- The values that are words, and what they are called.
def words : List (String × String) :=
  [("null", "null"), ("true", "a boolean"), ("false", "a boolean")]

namespace Bracket

def opening : Bracket → Char
  | array  => '['
  | object => '\x7b'

def enclose (b : Bracket) (cs : List Char) : List Char :=
  b.opening :: cs ++ [b.closing]

theorem enclose_append (b : Bracket) (cs rest : List Char) :
    b.enclose cs ++ rest = b.opening :: (cs ++ b.closing :: rest) := by
  simp [enclose]

end Bracket

-- What a value is made of: the values themselves, and what stands between brackets.
inductive Part
  | value
  | item (bracket : Bracket)
  | items (bracket : Bracket)

-- Texts of which only the form matters, at any depth.
inductive Formed : Part → List Char → Prop
  | word {w kind} : (w, kind) ∈ words → Formed .value w.toList
  | number {n : Number.Numeral} : n.WellFormed → Formed .value n.text
  | text {cs} : Text.Shaped cs → Formed .value (quoted cs)
  | blank {b : Bracket} {ws} : Blanks ws → Formed .value (b.enclose ws)
  | enclosed {b : Bracket} {cs} : Formed (.items b) cs → Formed .value (b.enclose cs)
  | element {ws v ws'} : Blanks ws → Formed .value v → Blanks ws' →
    Formed (.item .array) (ws ++ v ++ ws')
  | member {ws k ws₁ ws₂ v ws'} : Blanks ws → Text.Shaped k → Blanks ws₁ → Blanks ws₂ →
    Formed .value v → Blanks ws' →
    Formed (.item .object) (ws ++ quoted k ++ ws₁ ++ ':' :: ws₂ ++ v ++ ws')
  | last {b i} : Formed (.item b) i → Formed (.items b) i
  | cons {b i is} : Formed (.item b) i → Formed (.items b) is → Formed (.items b) (i ++ ',' :: is)

namespace Level

variable {α : Type}

-- One member of an object, with its value spelled as `child` says.
inductive Member (child : List Char → α → Prop) : List Char → String × α → Prop
  | intro {ws k ks ws₁ ws₂ v a ws'} : Blanks ws → Text.Spells k ks → Blanks ws₁ → Blanks ws₂ →
    child v a → Blanks ws' →
    Member child (ws ++ quoted k ++ ws₁ ++ ':' :: ws₂ ++ v ++ ws') (.ofList ks, a)

inductive Members (child : List Char → α → Prop) : List Char → List (String × α) → Prop
  | last {m e} : Member child m e → Members child m [e]
  | cons {m ms e es} : Member child m e → Members child ms es →
    Members child (m ++ ',' :: ms) (e :: es)

-- A name stands where it was given first, with the value it was given last.
def Collects (members : List (String × α)) (es : Entries α) : Prop :=
  es.keys = (members.map Prod.fst).eraseDups ∧
    ∀ k, es.toList.lookup k = members.reverse.lookup k

-- Of what is no object a level tells what it is called.
inductive Spells (child : List Char → α → Prop) : List Char → Level α → Prop
  | word {w found} : (w, found.text) ∈ words → Spells child w.toList (.notObject found)
  | number {n : Number.Numeral} {found} : n.WellFormed → n.InRange → found.text = "a number" →
    Spells child n.text (.notObject found)
  | text {cs ds found} : Text.Spells cs ds → found.text = "a string" →
    Spells child (quoted cs) (.notObject found)
  | emptyArray {ws found} : Blanks ws → found.text = "an array" →
    Spells child (Bracket.array.enclose ws) (.notObject found)
  | array {cs found} : Formed (.items .array) cs → found.text = "an array" →
    Spells child (Bracket.array.enclose cs) (.notObject found)
  | emptyObject {ws} : Blanks ws → Spells child (Bracket.object.enclose ws) (.object {})
  | object {cs ms es} : Members child cs ms → Collects ms es →
    Spells child (Bracket.object.enclose cs) (.object es)

end Level

end Json

-- A document spelled by one value: sites of datacenters of keys, what stands behind which is only a
-- value of some form.
def Document.SpelledBy (doc : Document) (v : List Char) : Prop :=
  Json.Level.Spells (Json.Level.Spells (Json.Level.Spells fun v _ => Json.Formed .value v)) v doc

-- A text spells a document if it does so up to the blanks around it.
def Document.SpelledIn (doc : Document) (text : String) : Prop :=
  ∃ ws v ws', text.toList = ws ++ v ++ ws' ∧ Json.Blanks ws ∧ Json.Blanks ws' ∧ doc.SpelledBy v

end TunnelPorts
