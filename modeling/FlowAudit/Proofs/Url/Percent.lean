import FlowAudit.Proofs.Text.Hexadecimal
import FlowAudit.Url.Percent

/-!
# What percent encoding leaves

An encoded text holds no character that would have to be encoded (`mem_encode`), and so it stays as
it is when it is encoded again (`encode_encode`).
-/

namespace FlowAudit.Url

/-- The percent sign and the digits that encoded octets are written with. -/
def encodingChars : List Char :=
  "%0123456789ABCDEF".toList

theorem mem_encodeOctet {o : UInt8} {c : Char} (hc : c ∈ encodeOctet o) : c ∈ encodingChars := by
  rcases List.mem_cons.mp hc with rfl | hc
  · decide
  · exact Text.of_mem_capitals (p := (· ∈ encodingChars)) (by decide) hc

section Set

variable {set : Char → Bool} {s : List Char} {c : Char}

/-- An encoded text holds what did not have to be encoded, and what encoding writes. -/
theorem mem_encode (hc : c ∈ encode set s) : c ∈ s ∧ set c = false ∨ c ∈ encodingChars := by
  obtain ⟨d, hd, hc⟩ := List.mem_flatMap.mp hc
  rw [encodeChar] at hc
  split at hc
  · obtain ⟨o, -, ho⟩ := List.mem_flatMap.mp hc
    exact .inr (mem_encodeOctet ho)
  · rename_i hset
    obtain rfl := List.mem_singleton.mp hc
    exact .inl ⟨hd, by simpa using hset⟩

theorem encode_of_forall (hs : ∀ c ∈ s, set c = false) : encode set s = s := by
  induction s with
  | nil => rfl
  | cons c s ih =>
    rw [List.forall_mem_cons] at hs
    have hrest := ih hs.2
    rw [encode] at hrest
    rw [encode, List.flatMap_cons, hrest, encodeChar, if_neg (by simp [hs.1])]
    rfl

/-- What encoding writes does not have to be encoded. -/
theorem not_set_of_mem_encode (hset : encodingChars.Forall (set · = false))
    (hc : c ∈ encode set s) : set c = false := by
  rcases mem_encode hc with ⟨-, hc⟩ | hc
  · exact hc
  · exact List.forall_iff_forall_mem.mp hset c hc

theorem encode_encode (hset : encodingChars.Forall (set · = false)) :
    encode set (encode set s) = encode set s :=
  encode_of_forall fun _ => not_set_of_mem_encode hset

/-- Every character is written with octets. -/
theorem utf8EncodeChar_ne_nil (c : Char) : String.utf8EncodeChar c ≠ [] := by
  unfold String.utf8EncodeChar
  dsimp only
  split
  · exact List.cons_ne_nil _ _
  · split
    · exact List.cons_ne_nil _ _
    · split <;> exact List.cons_ne_nil _ _

/-- An encoded text that does not start with a percent sign starts as the text does. -/
theorem exists_of_encode_eq_cons {t : List Char} (hc : c ≠ '%') (h : encode set s = c :: t) :
    ∃ s', s = c :: s' ∧ encode set s' = t := by
  cases s with
  | nil => cases h
  | cons d s =>
    rw [encode, List.flatMap_cons, encodeChar] at h
    split at h
    · obtain ⟨o, os, hos⟩ := List.exists_cons_of_ne_nil (utf8EncodeChar_ne_nil d)
      rw [hos, List.flatMap_cons, encodeOctet] at h
      exact absurd (List.cons.inj h).1.symm hc
    · obtain ⟨rfl, hrest⟩ := List.cons.inj h
      exact ⟨s, rfl, hrest⟩

theorem eq_nil_of_encode_eq_nil (h : encode set s = []) : s = [] := by
  cases s with
  | nil => rfl
  | cons d s =>
    rw [encode, List.flatMap_cons, encodeChar] at h
    split at h
    · obtain ⟨o, os, hos⟩ := List.exists_cons_of_ne_nil (utf8EncodeChar_ne_nil d)
      rw [hos, List.flatMap_cons, encodeOctet] at h
      cases h
    · cases h

end Set

end FlowAudit.Url
