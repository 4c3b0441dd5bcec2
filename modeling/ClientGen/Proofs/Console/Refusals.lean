import ClientGen.Console.Run

/-!
# Lines that the console refuses

Only a line that is left to the console can be refused. The lines up to the first refused one are
said ([World.said_cases]), so that a part of a run whose lines are all taken goes as it would without
a console ([World.upTo_of_takes]), and so does the end of a run ([failed_of_takes],
[finished_of_takes]). However a run ends, the files stay as they are when it does
([tree_failed], [tree_finished]).
-/

namespace ClientGen.Console

open Files

namespace World

variable {w : World} {lines more : List Line}

/-- Whether the console refuses none of some lines. -/
def Takes (w : World) (lines : List Line) : Prop := ∀ l ∈ lines, w.refusal? l = none

theorem takes_append : w.Takes (lines ++ more) ↔ w.Takes lines ∧ w.Takes more :=
  List.forall_mem_append

/-- Lines that are not left to it are not refused. -/
theorem takes_of_not_laidOut (h : ∀ l ∈ lines, l.isLaidOut = false) : w.Takes lines :=
  fun l hl => by rw [refusal?, h l hl, if_neg Bool.false_ne_true]

/-- Lines that are taken are said. -/
theorem said_append_of_takes (h : w.Takes lines) (more : List Line) :
    w.said (lines ++ more) = (lines ++ (w.said more).1, (w.said more).2) := by
  induction lines with
  | nil => rfl
  | cons l rest ih =>
    obtain ⟨hl, hrest⟩ := List.forall_mem_cons.1 h
    rw [List.cons_append, said, hl, ih hrest]
    rfl

theorem said_of_takes (h : w.Takes lines) : w.said lines = (lines, none) := by
  have hsaid := said_append_of_takes h []
  rwa [List.append_nil, said, List.append_nil] at hsaid

/-- All lines are said, or those before one that is refused. -/
theorem said_cases (w : World) (lines : List Line) :
    w.Takes lines ∧ w.said lines = (lines, none) ∨
      ∃ told l rest words, lines = told ++ l :: rest ∧ w.Takes told ∧
        w.refusal? l = some words ∧ w.said lines = (told, some words) := by
  induction lines with
  | nil => exact .inl ⟨List.forall_mem_nil _, rfl⟩
  | cons l rest ih =>
    cases hl : w.refusal? l with
    | some words =>
      refine .inr ⟨[], l, rest, words, rfl, List.forall_mem_nil _, hl, ?_⟩
      rw [said, hl]
    | none =>
      rcases ih with ⟨htakes, hsaid⟩ | ⟨told, l', rest', words, rfl, htakes, hl', hsaid⟩
      · refine .inl ⟨List.forall_mem_cons.2 ⟨hl, htakes⟩, ?_⟩
        rw [said, hl, hsaid]
      · refine .inr ⟨l :: told, l', rest', words, rfl, List.forall_mem_cons.2 ⟨hl, htakes⟩, hl', ?_⟩
        rw [said, hl, hsaid]

/-- Nothing is refused just if all lines are taken. -/
theorem said_snd_eq_none_iff : (w.said lines).2 = none ↔ w.Takes lines := by
  rcases said_cases w lines with ⟨htakes, hsaid⟩ | ⟨told, l, rest, words, rfl, _, hl, hsaid⟩
  · exact iff_of_true (congrArg Prod.snd hsaid) htakes
  · refine iff_of_false (fun h => nomatch (congrArg Prod.snd hsaid).symm.trans h) fun h => ?_
    have hnone := h l (List.mem_append_right _ List.mem_cons_self)
    cases hnone.symm.trans hl

/-! ## Parts of a run -/

section
variable {α : Type} {part : List Line × Except Failure α}

/-- A part whose lines are taken goes to its end. -/
theorem upTo_of_takes (h : w.Takes part.1) : w.upTo part = part := by
  rw [upTo, said_of_takes h]

/-- Any part goes to its end, or it fails with what is wrong with a line. -/
theorem upTo_cases (w : World) (part : List Line × Except Failure α) :
    w.Takes part.1 ∧ w.upTo part = part ∨
      ∃ words, w.upTo part = ((w.said part.1).1, .error (.markup words)) := by
  rcases said_cases w part.1 with ⟨htakes, _⟩ | ⟨told, l, rest, words, _, _, _, hsaid⟩
  · exact .inl ⟨htakes, upTo_of_takes htakes⟩
  · refine .inr ⟨words, ?_⟩
    rw [upTo, hsaid]

/-- If something comes of it, all its lines are taken. -/
theorem upTo_eq_ok {told : List Line} {a : α} (h : w.upTo part = (told, .ok a)) :
    w.Takes part.1 ∧ part = (told, .ok a) := by
  rcases upTo_cases w part with ⟨htakes, hsame⟩ | ⟨words, hrefused⟩
  · exact ⟨htakes, hsame.symm.trans h⟩
  · cases hrefused.symm.trans h

end

end World

/-! ## Ends of a run -/

/-- A failure is told by the code. -/
theorem exitCode_ne_successCode (f : Failure) : f.exitCode ≠ successCode := by
  unfold Failure.exitCode
  cases f.kind?.getD .general <;> decide

section
variable {w : World} {r : Reporter} {lines last : List Line} {tree : FileTree} {f : Failure}

/-- A failure whose report is taken ends a run with its code and the report. -/
theorem ended_of_takes (h : w.Takes (r.error f.report)) : ended w r lines tree f =
    ⟨f.exitCode, lines ++ r.error f.report ++ r.log f.records, tree⟩ := by
  rw [ended, World.said_of_takes h]

/-- This is so whether or not a command reports it. -/
theorem failed_of_takes (h : w.Takes (r.error f.report)) : failed w r lines tree f =
    ⟨f.exitCode, lines ++ r.error f.report ++ r.log f.records, tree⟩ := by
  rw [← ended_of_takes h, failed]
  cases hkind : f.kind? with
  | none => rfl
  | some kind =>
    have hreport : f.report = f.message := by rw [Failure.report, hkind]; rfl
    rw [← hreport, World.said_of_takes h]

/-- A run whose last lines are taken succeeds with them. -/
theorem finished_of_takes (h : w.Takes last) :
    finished w r lines tree last = ⟨successCode, lines ++ last, tree⟩ := by
  rw [finished, World.said_of_takes h]

@[simp] theorem tree_ended : (ended w r lines tree f).tree = tree := by
  unfold ended
  split <;> rfl

@[simp] theorem tree_failed : (failed w r lines tree f).tree = tree := by
  unfold failed
  split <;> exact tree_ended

@[simp] theorem tree_finished : (finished w r lines tree last).tree = tree := by
  unfold finished
  split
  · exact tree_ended
  · rfl

theorem code_ended_ne : (ended w r lines tree f).code ≠ successCode := by
  unfold ended
  split
  · exact (by decide : FailureKind.general.exitCode ≠ successCode)
  · exact exitCode_ne_successCode f

theorem code_failed_ne : (failed w r lines tree f).code ≠ successCode := by
  unfold failed
  split <;> exact code_ended_ne

/-- A run that comes to its end succeeds just if its last lines are taken. -/
theorem code_finished_iff : (finished w r lines tree last).code = successCode ↔ w.Takes last := by
  unfold finished
  rcases World.said_cases w last with ⟨htakes, hsaid⟩ | ⟨told, l, rest, words, _, _, _, hsaid⟩
  · rw [hsaid]
    exact iff_of_true rfl htakes
  · rw [hsaid]
    refine iff_of_false code_ended_ne fun htakes => ?_
    cases (congrArg Prod.snd hsaid).symm.trans (World.said_snd_eq_none_iff.2 htakes)

end

end ClientGen.Console
