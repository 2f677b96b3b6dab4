import FlowAudit.Uuid
import FlowAudit.Proofs.Text.Hexadecimal

/-!
# Identifiers read back

The text form of an identifier is read as that identifier (`Uuid.parse?_render`).
-/

namespace FlowAudit.Uuid

/-- The thirty-two digits of an identifier. -/
def digits (u : Uuid) : List Char :=
  Text.paddedDigits 16 16 u.high.toNat ++ Text.paddedDigits 16 16 u.low.toNat

theorem length_half (n : UInt64) : (Text.paddedDigits 16 16 n.toNat).length = 16 :=
  Text.length_paddedDigits (k := 15) (by simpa using n.toNat_lt)

theorem length_digits (u : Uuid) : u.digits.length = 32 := by
  rw [digits, List.length_append, length_half, length_half]

theorem notMem_digits (u : Uuid) : '-' ∉ u.digits := by
  intro hc
  have hdigit : Text.isDigitOf 16 '-' = true := by
    rw [digits, List.mem_append] at hc
    exact hc.elim Text.isDigitOf_of_mem_paddedDigits Text.isDigitOf_of_mem_paddedDigits
  exact absurd hdigit (by decide)

theorem ofDigits?_digits (u : Uuid) : ofDigits? u.digits = some u := by
  have hhigh : u.digits.take 16 = Text.paddedDigits 16 16 u.high.toNat :=
    List.take_left' (length_half _)
  have hlow : u.digits.drop 16 = Text.paddedDigits 16 16 u.low.toNat :=
    List.drop_left' (length_half _)
  simp [ofDigits?, length_digits, hhigh, hlow, Text.ofDigits?_paddedDigits]

theorem length_group {s : List Char} (hs : s.length = 32) : (group s).length = 36 := by
  simp [group, hs]

/-- Without its hyphens a grouped form consists of the digits. -/
theorem filter_group {s : List Char} (hs : '-' ∉ s) : (group s).filter (· ≠ '-') = s := by
  have hkeep {t : List Char} (ht : ∀ c ∈ t, c ∈ s) : t.filter (· ≠ '-') = t := by
    rw [List.filter_eq_self]
    intro c hc
    have hne : c ≠ '-' := fun h => hs (h ▸ ht c hc)
    simpa using hne
  have hgroup (k n : Nat) : ((s.drop k).take n).filter (· ≠ '-') = (s.drop k).take n :=
    hkeep fun c hc => List.mem_of_mem_drop (List.mem_of_mem_take hc)
  have hjoin (k n : Nat) : (s.drop k).take n ++ s.drop (k + n) = s.drop k := by
    rw [← List.drop_drop, List.take_append_drop]
  calc (group s).filter (· ≠ '-')
      = s.take 8 ++ ((s.drop 8).take 4 ++ ((s.drop 12).take 4 ++ ((s.drop 16).take 4 ++
          s.drop 20))) := by
        have hfirst : (s.take 8).filter (· ≠ '-') = s.take 8 :=
          hkeep fun c hc => List.mem_of_mem_take hc
        have hlast : (s.drop 20).filter (· ≠ '-') = s.drop 20 :=
          hkeep fun c hc => List.mem_of_mem_drop hc
        have hhyphen (t : List Char) : ('-' :: t).filter (· ≠ '-') = t.filter (· ≠ '-') := rfl
        simp only [group, List.filter_append, hhyphen, List.append_assoc, List.cons_append, hfirst,
          hgroup, hlast]
    _ = s := by rw [hjoin 16 4, hjoin 12 4, hjoin 8 4, List.take_append_drop]

theorem parse?_render (u : Uuid) : parse? u.render.toList = some u := by
  have hungroup : ungroup? (group u.digits) = some u.digits := by
    rw [ungroup?, filter_group u.notMem_digits]
    exact if_pos rfl
  have hlength := length_group u.length_digits
  have hrender : u.render.toList = group u.digits := by
    rw [render, String.toList_ofList, digits]
  rw [hrender, parse?, hlength]
  dsimp only
  rw [hungroup]
  exact u.ofDigits?_digits

end FlowAudit.Uuid
