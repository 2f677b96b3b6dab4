import FlowAudit.Proofs.Url.Host

/-!
# The octets of texts

A text is told by its octets (`textOf?_octets`), and those of texts in a row stand in a row. A text
without controls, which may still hold any character from the blank on, has no octet below that of
the blank either (`IsPlain.le_of_mem_octets`): the octets of characters behind ASCII are all large.
-/

namespace FlowAudit.Text

/-- The octets of a text. -/
def octets (s : String) : List UInt8 :=
  s.toUTF8.data.toList

/-- The text that has the given octets. -/
def textOf? (os : List UInt8) : Option String :=
  String.fromUTF8? ⟨os.toArray⟩

theorem octets_eq (s : String) : octets s = s.toList.flatMap String.utf8EncodeChar := by
  have htext : s.toByteArray = (s.toList.flatMap String.utf8EncodeChar).toByteArray :=
    congrArg String.toByteArray (@String.ofList_toList s).symm
  rw [octets, String.toUTF8, htext, List.data_toByteArray]

theorem octets_append (s t : String) : octets (s ++ t) = octets s ++ octets t := by
  rw [octets_eq, octets_eq, octets_eq, String.toList_append, List.flatMap_append]

theorem length_octets (s : String) : (octets s).length = s.utf8ByteSize := rfl

theorem textOf?_octets (s : String) : textOf? (octets s) = some s :=
  Url.fromUTF8?_eq_some_iff.mpr (octets_eq s).symm

/-- The octet of a character of ASCII is in a text only if the character is. -/
theorem mem_of_mem_octets {s : String} {c : Char} (hc : c.toNat < 0x80)
    (h : c.toUInt8 ∈ octets s) : c ∈ s.toList := by
  rw [octets_eq] at h
  obtain ⟨d, hd, hmem⟩ := List.mem_flatMap.mp h
  rwa [Url.eq_of_mem_utf8EncodeChar hc hmem]

/-! ### Texts without controls -/

/-- Whether a text holds no character below the blank. -/
def IsPlain (s : String) : Prop :=
  ∀ c ∈ s.toList, 0x20 ≤ c.toNat

instance (s : String) : Decidable (IsPlain s) :=
  List.decidableBAll _ s.toList

theorem IsPlain.append {s t : String} (hs : IsPlain s) (ht : IsPlain t) : IsPlain (s ++ t) := by
  rw [IsPlain, String.toList_append, List.forall_mem_append]
  exact ⟨hs, ht⟩

theorem isPlain_toString (n : Nat) : IsPlain (toString n) := fun _ hc =>
  of_isDigit (p := (0x20 ≤ Char.toNat ·)) (by decide) (Ipv4.isDigit_of_mem_toString hc)

/-- No octet of a text without controls is below that of the blank. -/
theorem IsPlain.le_of_mem_octets {s : String} (hs : IsPlain s) {o : UInt8} (ho : o ∈ octets s) :
    0x20 ≤ o := by
  by_contra hlow
  have hlow : o.toNat < 0x20 := UInt8.lt_iff_toNat_lt.mp (UInt8.not_le.mp hlow)
  -- an octet that low is that of a control, which would have to be in the text
  have hcontrol : ∀ n < 0x20, (Char.ofNat n).toNat = n ∧ (Char.ofNat n).toUInt8.toNat = n := by
    decide
  obtain ⟨hchar, hoctet⟩ := hcontrol o.toNat hlow
  have hmem : Char.ofNat o.toNat ∈ s.toList :=
    mem_of_mem_octets (by omega) (by rwa [UInt8.toNat_inj.mp hoctet])
  have hle := hs _ hmem
  omega

end FlowAudit.Text
