import FlowAudit.Json
import FlowAudit.Proofs.Text.Octet

/-!
# The text of JSON values

Whatever the strings of a value hold, its text holds no control (`Json.isPlain_render`): those in
strings are escaped, and nothing else of a text is written with one.
-/

namespace FlowAudit.Json

open Text (IsPlain isPlain_toString)

/-! ### Strings -/

/-- An escaped character is written without controls. -/
theorem le_of_mem_escape {c d : Char} (h : d ∈ escape c) : 0x20 ≤ d.toNat := by
  have hfixed {s : List Char} (hs : s.Forall (0x20 ≤ Char.toNat ·)) (hd : d ∈ s) :
      0x20 ≤ d.toNat :=
    List.forall_iff_forall_mem.mp hs d hd
  unfold escape at h
  split at h
  case h_8 =>
    split at h
    · rcases List.mem_append.mp h with hd | hd
      · exact hfixed (by decide) hd
      · exact Text.of_isDigitOf (p := (0x20 ≤ Char.toNat ·)) (by decide)
          (Text.isDigitOf_of_mem_paddedDigits hd)
    · rename_i hlow
      rw [List.mem_singleton.mp h]
      exact Nat.le_of_not_lt hlow
  all_goals exact hfixed (by decide) h

theorem isPlain_quote (s : String) : IsPlain (quote s) := by
  rw [IsPlain, quote, String.toList_ofList, List.forall_mem_cons, List.forall_mem_append,
    List.forall_mem_singleton]
  refine ⟨by decide, fun d hd => ?_, by decide⟩
  obtain ⟨c, -, hmem⟩ := List.mem_flatMap.mp hd
  exact le_of_mem_escape hmem

/-! ### Values -/

theorem Number.isPlain_render (n : Number) : IsPlain n.render := by
  have hsign (negative : Bool) : IsPlain (if negative then "-" else "") := by
    cases negative <;> decide
  cases n with
  | whole negative magnitude => exact (hsign negative).append (isPlain_toString magnitude)
  | decimal negative mantissa exponent =>
    have hexponent : IsPlain (toString exponent) := by
      cases exponent with
      | ofNat e => exact isPlain_toString e
      | negSucc e =>
        have hminus : IsPlain "-" := by decide
        exact hminus.append (isPlain_toString (e + 1))
    have hmark : IsPlain "e" := by decide
    exact (((hsign negative).append (isPlain_toString mantissa)).append hmark).append hexponent

mutual

theorem isPlain_render : (j : Json) → IsPlain j.render
  | .null => by decide
  | .bool b => by cases b <;> decide
  | .number n => n.isPlain_render
  | .string s => isPlain_quote s
  | .unpairedString => isPlain_quote "\ufffd"
  | .array items => by
    have hopen : IsPlain "[" := by decide
    exact (hopen.append (isPlain_renderItems (by decide) items)).append (by decide)
  | .object members => by
    have hopen : IsPlain "\x7b" := by decide
    exact (hopen.append (isPlain_renderMembers (by decide) members)).append (by decide)

theorem isPlain_renderItems {separator : String} (hseparator : IsPlain separator) :
    (items : List Json) → IsPlain (renderItems separator items)
  | [] => (by decide : IsPlain "")
  | item :: rest =>
    (hseparator.append (isPlain_render item)).append (isPlain_renderItems (by decide) rest)

theorem isPlain_renderMembers {separator : String} (hseparator : IsPlain separator) :
    (members : List (String × Json)) → IsPlain (renderMembers separator members)
  | [] => (by decide : IsPlain "")
  | (name, value) :: rest => by
    have hcolon : IsPlain ":" := by decide
    exact (((hseparator.append (isPlain_quote name)).append hcolon).append
      (isPlain_render value)).append (isPlain_renderMembers (by decide) rest)

end

end FlowAudit.Json
