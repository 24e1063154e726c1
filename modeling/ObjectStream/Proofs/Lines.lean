/-
  ObjectStream.Proofs.Lines

  The lines of a byte string that is there as a whole: it is cut at each line
  end, from left to right, and what follows the last line end is a line that is
  still unfinished.

  `splitLines` is the one-shot counterpart of a reader that meets the same bytes
  in pieces. `lines_append` and `unfinished_append` say what such a reader has to
  carry from one piece to the next: the unfinished line, and nothing else.

  A head ends with the first empty line. `headLines` are the lines before it and
  `headEnd?` is the offset right after it.
-/

import ObjectStream.Bytes
import Mathlib.Data.List.Infix
import Mathlib.Data.List.TakeWhile
import Mathlib.Tactic.Tauto

namespace ObjectStream
namespace Bytes

/-! ## Bytes without a line end -/

/-- No line end stands anywhere in the bytes. -/
def NoBreak (s : Bytes) : Prop := ¬ crlf <:+: s

theorem noBreak_nil : NoBreak [] := by
  intro h
  have hnil := List.infix_nil.mp h
  cases hnil

/-- A byte in front breaks the bytes only as a carriage return before a line feed. -/
theorem noBreak_cons {b : UInt8} {s : Bytes} :
    NoBreak (b :: s) ↔ NoBreak s ∧ ¬ (b = cr ∧ s.head? = some lf) := by
  have hprefix : crlf <+: b :: s ↔ b = cr ∧ s.head? = some lf := by
    cases s with
    | nil => simp [crlf]
    | cons c s => simp [crlf, eq_comm]
  unfold NoBreak
  rw [List.infix_cons_iff, hprefix, not_or]
  exact and_comm

/-- A byte at the end breaks the bytes only as a line feed after a carriage return. -/
theorem noBreak_concat {s : Bytes} {b : UInt8} :
    NoBreak (s ++ [b]) ↔ NoBreak s ∧ ¬ (s.getLast? = some cr ∧ b = lf) := by
  have hsuffix : crlf <:+ s ++ [b] ↔ s.getLast? = some cr ∧ b = lf := by
    rw [show crlf = [cr] ++ [lf] from rfl, List.suffix_concat_iff]
    constructor
    · rintro (h | ⟨t, ht, hsuf⟩)
      · simp at h
      · obtain ⟨rfl, hb⟩ := List.append_inj' ht rfl
        obtain ⟨u, rfl⟩ := hsuf
        simp only [List.cons.injEq, and_true] at hb
        exact ⟨by simp, hb.symm⟩
    · rintro ⟨h, rfl⟩
      refine Or.inr ⟨[cr], rfl, ?_⟩
      obtain ⟨u, rfl⟩ := List.getLast?_eq_some_iff.mp h
      exact ⟨u, rfl⟩
  unfold NoBreak
  rw [List.infix_concat_iff, hsuffix, not_or]
  exact and_comm

/-- Where bytes without a line end meet, one arises only from its two halves. -/
theorem noBreak_append {s t : Bytes} :
    NoBreak (s ++ t) ↔
      NoBreak s ∧ NoBreak t ∧ ¬ (s.getLast? = some cr ∧ t.head? = some lf) := by
  induction s with
  | nil => simp [noBreak_nil]
  | cons b s ih =>
    rw [List.cons_append, noBreak_cons, ih, noBreak_cons]
    cases s with
    | nil => simp [noBreak_nil, and_comm]
    | cons c s =>
      rw [List.cons_append, List.head?_cons, List.head?_cons, List.getLast?_cons_cons]
      tauto

theorem noBreak_of_not_mem {s : Bytes} (h : cr ∉ s) : NoBreak s := fun hs =>
  h (hs.subset List.mem_cons_self)

theorem NoBreak.left {s t : Bytes} (h : NoBreak (s ++ t)) : NoBreak s :=
  fun hs => h (hs.trans (List.infix_append' [] s t))

/-! ## Cutting at every line end -/

/-- The lines that end in the bytes, without their ends, and the bytes after the last of them. -/
def splitLines : Bytes → List Bytes × Bytes
  | [] => ([], [])
  | 13 :: 10 :: rest => ([] :: (splitLines rest).1, (splitLines rest).2)
  | b :: rest =>
    match splitLines rest with
    | ([], tail) => ([], b :: tail)
    | (line :: later, tail) => ((b :: line) :: later, tail)

/-- The lines that end in the bytes, without their ends. -/
def lines (s : Bytes) : List Bytes := (splitLines s).1

/-- The bytes after the last line end. -/
def unfinished (s : Bytes) : Bytes := (splitLines s).2

/-- Lines as they stand in bytes, each with its end. -/
def written (ls : List Bytes) : Bytes := ls.flatMap (· ++ crlf)

@[simp] theorem written_nil : written [] = [] := rfl

@[simp] theorem written_cons (l : Bytes) (ls : List Bytes) :
    written (l :: ls) = l ++ crlf ++ written ls := rfl

@[simp] theorem written_append (ls ms : List Bytes) :
    written (ls ++ ms) = written ls ++ written ms := by
  simp only [written, List.flatMap_append]

/-- The cut loses nothing. -/
theorem written_lines_append_unfinished (s : Bytes) : written (lines s) ++ unfinished s = s := by
  unfold lines unfinished
  fun_induction splitLines s with
  | case1 => rfl
  | case2 rest ih => simpa [crlf, cr, lf] using ih
  | case3 b rest _ tail heq ih =>
    rw [heq] at ih
    simpa using ih
  | case4 b rest _ line later tail heq ih =>
    rw [heq] at ih
    simpa using ih

theorem noBreak_unfinished (s : Bytes) : NoBreak (unfinished s) := by
  unfold unfinished
  fun_induction splitLines s with
  | case1 => exact noBreak_nil
  | case2 rest ih => exact ih
  | case3 b rest hpair tail heq ih =>
    rw [heq] at ih
    -- Without a line in `rest`, the tail is `rest` itself, so its first byte is the one after `b`.
    have htail : tail = rest := by
      have hall := written_lines_append_unfinished rest
      rw [lines, unfinished, heq] at hall
      exact hall
    subst htail
    exact noBreak_cons.mpr ⟨ih, fun ⟨hb, hhead⟩ => by
      obtain ⟨t, rfl⟩ := List.head?_eq_some_iff.mp hhead
      exact hpair t hb rfl⟩
  | case4 b rest _ line later tail heq ih =>
    rw [heq] at ih
    exact ih

theorem noBreak_of_mem_lines {s l : Bytes} (h : l ∈ lines s) : NoBreak l := by
  unfold lines at h
  fun_induction splitLines s generalizing l with
  | case1 => cases h
  | case2 rest ih =>
    rcases List.mem_cons.mp h with rfl | hl
    · exact noBreak_nil
    · exact ih hl
  | case3 => cases h
  | case4 b rest hpair line later tail heq ih =>
    rw [heq] at ih
    rcases List.mem_cons.mp h with rfl | hl
    · refine noBreak_cons.mpr ⟨ih (List.mem_cons_self ..), fun ⟨hb, hhead⟩ => ?_⟩
      obtain ⟨t, rfl⟩ := List.head?_eq_some_iff.mp hhead
      have hall := written_lines_append_unfinished rest
      rw [lines, unfinished, heq, written_cons] at hall
      exact hpair _ hb hall.symm
    · exact ih (List.mem_cons_of_mem _ hl)

/-- Bytes without a line end are one unfinished line. -/
theorem splitLines_of_noBreak {s : Bytes} (h : NoBreak s) : splitLines s = ([], s) := by
  fun_induction splitLines s with
  | case1 => rfl
  | case2 rest ih => exact absurd ⟨rfl, rfl⟩ (noBreak_cons.mp h).2
  | case3 b rest _ tail heq ih =>
    rw [ih (noBreak_cons.mp h).1] at heq
    cases heq
    rfl
  | case4 b rest _ line later tail heq ih =>
    rw [ih (noBreak_cons.mp h).1] at heq
    cases heq

/-- The first line end cuts the first line off. -/
theorem splitLines_line {l : Bytes} (h : NoBreak l) (s : Bytes) :
    splitLines (l ++ crlf ++ s) = (l :: lines s, unfinished s) := by
  induction l with
  | nil => rfl
  | cons b l ih =>
    obtain ⟨hl, hb⟩ := noBreak_cons.mp h
    -- The first byte is not one half of a line end, so it goes in front of the first line.
    have hpair : ∀ t, b = 13 → l ++ crlf ++ s = 10 :: t → False := by
      intro t hcr ht
      cases l with
      | nil => simp [crlf, cr] at ht
      | cons c l =>
        simp only [List.cons_append, List.cons.injEq] at ht
        exact hb ⟨hcr, by rw [ht.1]; rfl⟩
    rw [List.cons_append, List.cons_append, splitLines.eq_3 b _ hpair, ih hl]

/-! ## Lines and bytes put together -/

theorem lines_of_noBreak {s : Bytes} (h : NoBreak s) : lines s = [] := by
  rw [lines, splitLines_of_noBreak h]

theorem unfinished_of_noBreak {s : Bytes} (h : NoBreak s) : unfinished s = s := by
  rw [unfinished, splitLines_of_noBreak h]

theorem splitLines_written_append {ls : List Bytes} (h : ∀ l ∈ ls, NoBreak l) (s : Bytes) :
    splitLines (written ls ++ s) = (ls ++ lines s, unfinished s) := by
  induction ls with
  | nil => rfl
  | cons l ls ih =>
    have hrest := ih fun m hm => h m (List.mem_cons_of_mem _ hm)
    rw [written_cons, List.append_assoc, splitLines_line (h l (List.mem_cons_self ..)), lines,
      unfinished, hrest]
    rfl

/-- Of the bytes before, only the unfinished line matters for what comes after them. -/
theorem splitLines_append (s t : Bytes) :
    splitLines (s ++ t) =
      (lines s ++ lines (unfinished s ++ t), unfinished (unfinished s ++ t)) := by
  -- Written out, the lines before are whole, and only the unfinished one meets `t`.
  have hcut : s ++ t = written (lines s) ++ (unfinished s ++ t) := by
    rw [← List.append_assoc, written_lines_append_unfinished]
  rw [hcut, splitLines_written_append fun l hl => noBreak_of_mem_lines hl]

theorem lines_append (s t : Bytes) : lines (s ++ t) = lines s ++ lines (unfinished s ++ t) := by
  rw [lines, splitLines_append]

theorem unfinished_append (s t : Bytes) : unfinished (s ++ t) = unfinished (unfinished s ++ t) := by
  rw [unfinished, splitLines_append]

/-! ## The lines of a head -/

/-- The lines before the first empty line. -/
def headLines (s : Bytes) : List Bytes := (lines s).takeWhile (· ≠ [])

/-- The offset right after the first empty line, if there is one. -/
def headEnd? (s : Bytes) : Option Nat :=
  if [] ∈ lines s then some ((written (headLines s)).length + crlf.length) else none

theorem headEnd?_eq_none {s : Bytes} : headEnd? s = none ↔ [] ∉ lines s := by
  simp [headEnd?]

theorem exists_of_headEnd? {s : Bytes} {p : Nat} (h : headEnd? s = some p) :
    ∃ ls more, lines s = ls ++ [] :: more ∧ [] ∉ ls := by
  apply List.eq_append_cons_of_mem
  by_contra hno
  rw [headEnd?_eq_none.mpr hno] at h
  cases h

/-- The first empty line tells where the head ends and which lines are in it. -/
theorem head_of_lines {s : Bytes} {ls more : List Bytes} (hne : [] ∉ ls)
    (h : lines s = ls ++ [] :: more) :
    headLines s = ls ∧ headEnd? s = some ((written ls).length + crlf.length) := by
  have hall : ∀ l ∈ ls, decide (l ≠ []) = true := by
    intro l hl
    exact decide_eq_true fun hnil => hne (hnil ▸ hl)
  have hhead : headLines s = ls := by
    rw [headLines, h, List.takeWhile_append_of_pos hall]
    simp
  refine ⟨hhead, ?_⟩
  rw [headEnd?, if_pos (by simp [h]), hhead]

/-- Bytes that end in the first empty line are a whole head, whatever follows them. -/
theorem head_of_splitLines {s : Bytes} {ls : List Bytes} (h : splitLines s = (ls ++ [[]], []))
    (hne : [] ∉ ls) (t : Bytes) : headLines (s ++ t) = ls ∧ headEnd? (s ++ t) = some s.length := by
  have hlines : lines (s ++ t) = ls ++ [] :: lines (unfinished s ++ t) := by
    rw [lines_append, lines, h, List.append_assoc, List.singleton_append]
  have hlen : s.length = (written ls).length + crlf.length := by
    conv_lhs => rw [← written_lines_append_unfinished s, lines, unfinished, h]
    simp [crlf]
  rw [hlen]
  exact head_of_lines hne hlines

/-- What follows a head does not change it. -/
theorem head_append {s : Bytes} {p : Nat} (h : headEnd? s = some p) (t : Bytes) :
    headLines (s ++ t) = headLines s ∧ headEnd? (s ++ t) = some p := by
  obtain ⟨ls, more, hsplit, hne⟩ := exists_of_headEnd? h
  obtain ⟨hhead, hend⟩ := head_of_lines hne hsplit
  rw [hhead, ← h, hend]
  have hall : lines (s ++ t) = ls ++ [] :: (more ++ lines (unfinished s ++ t)) := by
    rw [lines_append, hsplit, List.append_assoc, List.cons_append]
  exact head_of_lines hne hall

/-- A head that ends is its lines and the empty line, and then come the bytes after it. -/
theorem eq_head_append {s : Bytes} {p : Nat} (h : headEnd? s = some p) :
    p = (written (headLines s) ++ crlf).length ∧ [] ∉ headLines s ∧
      s = written (headLines s) ++ crlf ++ s.drop p := by
  obtain ⟨ls, more, hsplit, hne⟩ := exists_of_headEnd? h
  obtain ⟨hhead, hend⟩ := head_of_lines hne hsplit
  have hp : p = (written (headLines s) ++ crlf).length := by
    rw [hend] at h
    rw [hhead, List.length_append]
    exact (Option.some.inj h).symm
  refine ⟨hp, hhead ▸ hne, ?_⟩
  have hall : s = written (headLines s) ++ crlf ++ (written more ++ unfinished s) := by
    conv_lhs => rw [← written_lines_append_unfinished s, hsplit]
    simp [hhead]
  have hdrop : s.drop p = written more ++ unfinished s := by
    conv_lhs => rw [hall]
    exact List.drop_left' hp.symm
  rw [hdrop]
  exact hall

theorem headEnd?_le {s : Bytes} {p : Nat} (h : headEnd? s = some p) : p ≤ s.length := by
  obtain ⟨hp, -, hs⟩ := eq_head_append h
  have hlen := congrArg List.length hs
  rw [List.length_append, ← hp] at hlen
  omega

/-- Bytes that reach as far as the head show its end. -/
theorem nil_mem_lines_take {s : Bytes} {p n : Nat} (h : headEnd? s = some p) (hn : p ≤ n) :
    [] ∈ lines (s.take n) := by
  obtain ⟨hp, -, hs⟩ := eq_head_append h
  have htake : s.take n = written (headLines s ++ [[]]) ++ (s.drop p).take (n - p) := by
    conv_lhs => rw [hs]
    rw [List.take_append, List.take_of_length_le (by omega), ← hp]
    simp
  -- The front is the lines of the head and the empty one, and these cut as they are written.
  have hbreak : ∀ l ∈ headLines s ++ [[]], NoBreak l := by
    intro l hl
    rcases List.mem_append.mp hl with hl | hl
    · exact noBreak_of_mem_lines ((List.takeWhile_prefix _).subset hl)
    · rw [List.mem_singleton.mp hl]
      exact noBreak_nil
  rw [htake, lines, splitLines_written_append hbreak]
  simp

end Bytes
end ObjectStream
