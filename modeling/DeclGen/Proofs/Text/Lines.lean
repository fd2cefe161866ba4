import DeclGen.Text.Segments

/-!
# DeclGen.Proofs.Text.Lines

Texts made of lines, each of which ends with a line feed.

`indentLines` puts spaces in front of every line of a text.  A line that has no
line feed inside is indented by itself, and then the text behind it
(`indentLines_line`).
-/

namespace DeclGen.Text

/-- A text with `n` spaces in front of every character that starts a line;
`start` tells whether the first one does. -/
def indentFrom (n : Nat) : (start : Bool) → List Char → List Char
  | _, [] => []
  | start, c :: r =>
    (if start then List.replicate n ' ' else []) ++ c :: indentFrom n (c == '\n') r

/-- A text with `n` spaces in front of every line. -/
def indentLines (n : Nat) (s : List Char) : List Char := indentFrom n true s

variable {n : Nat}

/-- Within a line nothing is put in, and behind it starts another one. -/
theorem indentFrom_append {content : List Char} (h : '\n' ∉ content) (start : Bool)
    (r : List Char) : indentFrom n start (content ++ '\n' :: r) =
      (if start then List.replicate n ' ' else []) ++ content ++ '\n' :: indentLines n r := by
  induction content generalizing start with
  | nil => simp [indentFrom, indentLines]
  | cons c content ih =>
      have hc : c ≠ '\n' := (List.ne_of_not_mem_cons h).symm
      have hcontent := List.not_mem_of_not_mem_cons h
      have hwithin : (c == '\n') = false := beq_false_of_ne hc
      rw [List.cons_append, indentFrom, hwithin, ih hcontent]
      simp

/-- A line is indented, and then the text behind it. -/
theorem indentLines_line {content : List Char} (h : '\n' ∉ content) (r : List Char) :
    indentLines n (content ++ '\n' :: r) =
      List.replicate n ' ' ++ content ++ '\n' :: indentLines n r := indentFrom_append h true r

/-- A character that is in no part and not in the separator is not in the parts
joined. -/
theorem not_mem_intercalate {c : Char} {sep : List Char} {parts : List (List Char)} (hsep : c ∉ sep)
    (h : ∀ part ∈ parts, c ∉ part) : c ∉ sep.intercalate parts := by
  induction parts with
  | nil => exact List.not_mem_nil
  | cons part parts ih =>
      obtain ⟨hpart, hparts⟩ := List.forall_mem_cons.mp h
      cases parts with
      | nil => rwa [List.intercalate_singleton]
      | cons next parts =>
          rw [List.intercalate_cons_cons]
          exact List.not_mem_append (List.not_mem_append hpart hsep) (ih hparts)

end DeclGen.Text
