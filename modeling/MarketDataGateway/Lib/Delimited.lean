import Mathlib.Data.List.Basic

/-!
# Rows of words between marks

A code writes each thing as a word that can be told apart from what follows it. A row of such words may be any length when a mark ends it
that no word begins with.

Nothing here is about one system: the things, the letters and the mark are parameters.
-/

namespace Delimited

/-- Words that a reader can tell apart from what follows them. -/
structure Code (α β : Type) where
  write : α → List β
  read : List β → Option (α × List β)
  read_write : ∀ a rest, read (write a ++ rest) = some (a, rest)
  read_shorter : ∀ text a rest, read text = some (a, rest) → rest.length < text.length

namespace Code

variable {α β : Type} [DecidableEq β] (c : Code α β)

/-- A row of words, then the mark. -/
def writeRow (mark : β) (row : List α) : List β := row.flatMap c.write ++ [mark]

/-- The words up to the mark, and what follows the mark. -/
def readRow (mark : β) (text : List β) : Option (List α × List β) :=
  match text with
  | [] => none
  | b :: rest =>
    if b = mark then some ([], rest)
    else
      match _h : c.read (b :: rest) with
      | none => none
      | some (a, rest') => (readRow mark rest').map fun r => (a :: r.1, r.2)
termination_by text.length
decreasing_by exact c.read_shorter _ _ _ _h

/-- A mark in front ends an empty row. -/
theorem readRow_mark (mark : β) (rest : List β) : c.readRow mark (mark :: rest) = some ([], rest) := by
  rw [readRow, if_pos rfl]

/-- A word that does not begin with the mark is read before the rest of the row. -/
theorem readRow_word {mark : β} {a : α} (h : (c.write a).head? ≠ some mark) (text : List β) :
    c.readRow mark (c.write a ++ text) = (c.readRow mark text).map fun r => (a :: r.1, r.2) := by
  have hread := c.read_write a text
  have hshorter := c.read_shorter _ _ _ hread
  cases hword : c.write a with
  | nil =>
    rw [hword] at hshorter
    exact absurd hshorter (Nat.lt_irrefl _)
  | cons b word =>
    rw [hword] at h hread
    rw [List.cons_append] at hread ⊢
    rw [readRow, if_neg (fun he => h (congrArg some he))]
    split
    · rename_i hnone
      rw [hread] at hnone
      cases hnone
    · rename_i hsome
      rw [hread] at hsome
      cases hsome
      rfl

/-- A row is read as it was written, whatever follows it. -/
theorem readRow_writeRow {mark : β} {row : List α} (h : ∀ a ∈ row, (c.write a).head? ≠ some mark) (rest : List β) :
    c.readRow mark (c.writeRow mark row ++ rest) = some (row, rest) := by
  induction row with
  | nil => exact c.readRow_mark mark rest
  | cons a row ih =>
    have hrow := ih fun a' ha' => h a' (List.mem_cons_of_mem a ha')
    have happend : c.writeRow mark (a :: row) ++ rest = c.write a ++ (c.writeRow mark row ++ rest) := by
      simp [writeRow, List.append_assoc]
    rw [happend, c.readRow_word (h a List.mem_cons_self), hrow]
    rfl

end Code

end Delimited
