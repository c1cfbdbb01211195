import TunnelPorts.Output
import TunnelPorts.Proofs.Failing
import TunnelPorts.Proofs.Key

/-!
What output becomes of pieces. A sink that takes everything gets all their bytes, and one with room
for some of them gets the beginning of the same bytes, in the middle of a piece if it comes to that.
-/

namespace TunnelPorts

open Failing

-- What a sink has received is extended piece by piece.
theorem received_append (xs : Array UInt8) (as bs : Bytes) : xs ++ as ++ bs = xs ++ (as ++ bs) :=
  Array.toList_inj.1 (by simp)

namespace Sink

variable {σ : Type} {offer : Bytes → Writing σ Nat} {bytes : Bytes} {s t : σ}

theorem writeAll_nil : writeAll offer [] s = (.ok (), s) := by
  rw [writeAll]
  rfl

theorem writeAll_taken {n : Nat} (hb : bytes ≠ []) (ho : offer bytes s = (.ok n, t)) :
    writeAll offer bytes s =
      if n = 0 then (.error .tookNothing, t) else writeAll offer (bytes.drop n) t := by
  rw [writeAll, dif_neg hb, bind_ok ho]
  split <;> simp [*]

theorem writeAll_refused {e : WriteError} (hb : bytes ≠ []) (ho : offer bytes s = (.error e, t)) :
    writeAll offer bytes s = (.error e, t) := by
  rw [writeAll, dif_neg hb, bind_error ho]

end Sink

namespace Limited

variable {bytes : Bytes} {s : Limited}

theorem offer_full (hr : s.room = 0) :
    offer bytes s =
      if s.refusal = .tookNothing then (.ok 0, s) else (.error s.refusal, s) := by
  by_cases h : s.refusal = .tookNothing <;> simp [offer, bind_apply, hr, h]

theorem offer_open (hr : s.room ≠ 0) :
    offer bytes s =
      (.ok (min s.room bytes.length),
        { s with
          room := s.room - min s.room bytes.length
          received := s.received ++ bytes.take (min s.room bytes.length) }) := by
  simp [offer, bind_apply, hr, Except.map]

theorem writeAll_full (hb : bytes ≠ []) (hr : s.room = 0) :
    Sink.writeAll offer bytes s = (.error s.refusal, s) := by
  have ho : offer bytes s = _ := offer_full hr
  split at ho
  case isTrue h  => rw [Sink.writeAll_taken hb ho, if_pos rfl, h]
  case isFalse h => exact Sink.writeAll_refused hb ho

-- What is left of a sink when it was given some bytes.
def take (s : Limited) (bytes : Bytes) : Limited :=
  { s with room := s.room - bytes.length, received := s.received ++ bytes.take s.room }

-- A piece that does not fit is taken in part before the rest of it is refused.
theorem write_apply (bytes : Bytes) (s : Limited) :
    (Sink.write bytes : Writing Limited Unit) s =
      (if s.room < bytes.length then .error s.refusal else .ok (), s.take bytes) := by
  change Sink.writeAll offer bytes s = _
  by_cases hb : bytes = []
  case pos => simp [hb, Sink.writeAll_nil, take]
  by_cases hr : s.room = 0
  case pos =>
    cases s
    simp_all [writeAll_full, take, List.length_pos_iff]
  have hl := List.length_pos_iff.2 hb
  rw [Sink.writeAll_taken hb (offer_open hr), if_neg (by omega)]
  by_cases h : s.room < bytes.length
  case pos =>
    have hm : min s.room bytes.length = s.room := by omega
    rw [writeAll_full (by simp; omega) (by simp [hm])]
    have hz : s.room - bytes.length = 0 := by omega
    simp [take, h, hm, hz]
  case neg =>
    have hm : min s.room bytes.length = bytes.length := by omega
    have ht : bytes.take s.room = bytes := List.take_of_length_le (by omega)
    simp [hm, ht, h, Sink.writeAll_nil, take]

theorem take_append (s : Limited) (as bs : Bytes) : (s.take as).take bs = s.take (as ++ bs) := by
  simp [take, List.take_append, Nat.sub_sub, received_append]

-- Once a sink is full, more bytes make no difference to it.
theorem take_append_of_room_lt {as : Bytes} (bs : Bytes) (h : s.room < as.length) :
    s.take (as ++ bs) = s.take as := by
  have hl : s.room - as.length = 0 := by omega
  have hz : s.room - (as.length + bs.length) = 0 := by omega
  simp [take, List.take_append, hl, hz]

end Limited

namespace Output

-- The bytes of some pieces, without regard to where one ends and the next begins.
def bytes (pieces : List String) : Bytes :=
  pieces.flatMap Text.utf8

@[simp]
theorem bytes_nil : bytes [] = [] :=
  rfl

@[simp]
theorem bytes_cons (p : String) (ps : List String) : bytes (p :: ps) = Text.utf8 p ++ bytes ps :=
  rfl

@[simp]
theorem bytes_append (ps qs : List String) : bytes (ps ++ qs) = bytes ps ++ bytes qs :=
  List.flatMap_append

theorem bytes_pairPieces (keys : List String) :
    bytes ((keys.map Key.tunnel).flatMap pairPieces) = Key.tokens keys := by
  simp [bytes, pairPieces, List.flatMap_assoc, List.flatMap_map, Key.tokens, Key.token, Key.tunnel]

theorem bytes_portPieces (ports : List String) :
    bytes (portPieces ports) =
      Text.utf8 "ports:\n" ++ ports.flatMap fun p => Text.utf8 (":" ++ p ++ ",") := by
  have h : "ports:\n" = header ++ "\n" := by decide
  simp [h, bytes, portPieces, List.flatMap_assoc]

theorem writePieces_cons {σ : Type} [Sink σ] (p : String) (ps : List String) :
    (writePieces (p :: ps) : Writing σ Unit) = (do Sink.writeText p; writePieces ps) :=
  rfl

theorem writePieces_append {σ : Type} [Sink σ] (ps qs : List String) :
    (writePieces (ps ++ qs) : Writing σ Unit) = (do writePieces ps; writePieces qs) :=
  List.forM_append

theorem writePieces_collected (pieces : List String) (s : Collected) :
    writePieces pieces s = (.ok (), ⟨s.received ++ bytes pieces⟩) := by
  induction pieces generalizing s
  case nil => simp [writePieces]
  case cons p ps hi =>
    have hw : (Sink.writeText p : Writing Collected Unit) s =
        (.ok (), ⟨s.received ++ Text.utf8 p⟩) := rfl
    rw [writePieces_cons, bind_ok hw, hi, received_append]
    rfl

theorem writePieces_limited (pieces : List String) (s : Limited) :
    writePieces pieces s =
      (if s.room < (bytes pieces).length then .error s.refusal else .ok (),
        s.take (bytes pieces)) := by
  induction pieces generalizing s
  case nil => simp [writePieces, Limited.take]
  case cons p ps hi =>
    have hw : (Sink.writeText p : Writing Limited Unit) s = _ := Limited.write_apply _ s
    rw [writePieces_cons, bytes_cons]
    by_cases h : s.room < (Text.utf8 p).length
    case pos =>
      rw [if_pos h] at hw
      have hl : s.room < (Text.utf8 p ++ bytes ps).length := by simp; omega
      rw [bind_error hw, if_pos hl, Limited.take_append_of_room_lt _ h]
    case neg =>
      rw [if_neg h] at hw
      have hl : s.room - (Text.utf8 p).length < (bytes ps).length ↔
          s.room < (Text.utf8 p ++ bytes ps).length := by simp; omega
      rw [bind_ok hw, hi, Limited.take_append]
      simp only [Limited.take, hl]

end Output
end TunnelPorts
