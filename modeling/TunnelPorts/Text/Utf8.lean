/-!
Bytes of a text. `utf8` is the UTF-8 form of a string and `ofUtf8?` reads it back; a byte sequence
that is not UTF-8 spells no text.
-/

namespace TunnelPorts

abbrev Bytes := List UInt8

namespace Text

-- The UTF-8 form of `s`.
def utf8 (s : String) : Bytes :=
  s.toByteArray.data.toList

-- The text that `bytes` spells in UTF-8, if there is one.
def ofUtf8? (bytes : Bytes) : Option String :=
  String.fromUTF8? ⟨bytes.toArray⟩

@[simp]
theorem utf8_empty : utf8 "" = [] := rfl

@[simp]
theorem utf8_append (s t : String) : utf8 (s ++ t) = utf8 s ++ utf8 t := by
  simp [utf8, String.toByteArray_append]

theorem ofUtf8?_utf8 (s : String) : ofUtf8? (utf8 s) = some s := by
  simp [ofUtf8?, utf8, String.fromUTF8?, String.fromUTF8, s.isValidUTF8]

theorem utf8_eq_nil_iff {s : String} : utf8 s = [] ↔ s = "" := by
  constructor
  case mp  => exact fun h => Option.some.inj <| (ofUtf8?_utf8 s).symm.trans <| h ▸ ofUtf8?_utf8 ""
  case mpr => exact fun h => h ▸ utf8_empty

end Text
end TunnelPorts
