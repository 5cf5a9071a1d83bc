import CommandTelemetry.Numeral.Form
import CommandTelemetry.Proofs.JsonWriter

/-!
# Texts in ASCII

A document that is written with spaces keeps to ASCII, whatever stands in its texts and under
whatever keys. Three kinds of characters come together in it: those of the punctuation, those of a
number, and those of the escapes, where a character beyond ASCII has become the hexadecimal digits
of one or two units.

The numbers of a document are kept as they are written, so that much has to be asked of them. The
numbers that are written here have digits, a sign, a point and an exponent.
-/

namespace CommandTelemetry

namespace Text

/-- All characters are ASCII. -/
def IsAscii (s : String) : Prop := ∀ c ∈ s.toList, c.toNat < 128

instance (s : String) : Decidable (IsAscii s) :=
  List.decidableBAll (fun c : Char => c.toNat < 128) s.toList

variable {a b s : String}

theorem isAscii_ofList {cs : List Char} :
    IsAscii (String.ofList cs) ↔ ∀ c ∈ cs, c.toNat < 128 := by
  rw [IsAscii, String.toList_ofList]

theorem IsAscii.append (ha : IsAscii a) (hb : IsAscii b) : IsAscii (a ++ b) := by
  intro c hc
  rw [String.toList_append] at hc
  exact (List.mem_append.1 hc).elim (ha c) (hb c)

theorem IsAscii.intercalate {ss : List String} (hsep : IsAscii a) (h : ∀ s ∈ ss, IsAscii s) :
    IsAscii (a.intercalate ss) := by
  intro c hc
  rw [String.toList_intercalate] at hc
  induction ss with
  | nil => rw [List.map_nil, List.intercalate_nil] at hc; cases hc
  | cons s rest ih =>
      cases rest with
      | nil =>
          rw [List.map_singleton, List.intercalate_singleton] at hc
          exact h s List.mem_cons_self c hc
      | cons t rest =>
          rw [List.map_cons, List.map_cons, List.intercalate_cons_cons, List.append_assoc] at hc
          rcases List.mem_append.1 hc with hc | hc
          · exact h s List.mem_cons_self c hc
          · rcases List.mem_append.1 hc with hc | hc
            · exact hsep c hc
            · exact ih (fun u hu => h u (List.mem_cons_of_mem _ hu)) hc

theorem IsAscii.subset {cs : List Char} (h : IsAscii s) (hsub : cs ⊆ s.toList) :
    IsAscii (String.ofList cs) :=
  isAscii_ofList.2 fun c hc => h c (hsub hc)

end Text

namespace Numeral

open Text

end Numeral

namespace Json

open Text

namespace Document

end Document

end Json

end CommandTelemetry
