import Mathlib.Data.List.Induction
import RemoteInterpreter.Session.Run

/-!
# Moments of a run

A moment of a run is the session as it stands before one of its actions, together with
that action. What has happened at some moment stays true while the run goes on, and what
every action preserves holds wherever a run leads.
-/

namespace RemoteInterpreter.Session

variable {s : Session} {P Q : Session → Action → Prop} {as : List Action} {a : Action}

/-- `P` holds at some moment of the run. -/
def Happens (P : Session → Action → Prop) (s : Session) (as : List Action) : Prop :=
  ∃ before a after, as = before ++ a :: after ∧ P (s.run before) a

/-- `P` holds at every moment of the run. -/
def Always (P : Session → Action → Prop) (s : Session) (as : List Action) : Prop :=
  ∀ before a after, as = before ++ a :: after → P (s.run before) a

theorem run_concat (s : Session) (as : List Action) (a : Action) :
    s.run (as ++ [a]) = (s.run as).act a := by
  rw [run_append, run_cons, run_nil]

@[simp] theorem not_happens_nil : ¬ Happens P s [] := by
  rintro ⟨before, a, after, h, -⟩
  simp at h

/-- A moment of a longer run is its last one or lies before. -/
theorem concat_eq_append_cons {before after : List Action} {b : Action}
    (h : as ++ [a] = before ++ b :: after) :
    (before = as ∧ b = a) ∨ ∃ init, as = before ++ b :: init := by
  rcases List.eq_nil_or_concat after with rfl | ⟨init, last, rfl⟩
  · obtain ⟨rfl, hb⟩ := List.append_inj' h rfl
    exact Or.inl ⟨rfl, (List.singleton_inj.1 hb).symm⟩
  · have h' : as ++ [a] = (before ++ b :: init) ++ [last] := by simpa using h
    exact Or.inr ⟨init, (List.append_inj' h' rfl).1⟩

theorem happens_concat : Happens P s (as ++ [a]) ↔ Happens P s as ∨ P (s.run as) a := by
  constructor
  · rintro ⟨before, b, after, h, hp⟩
    rcases concat_eq_append_cons h with ⟨rfl, rfl⟩ | ⟨init, hinit⟩
    · exact Or.inr hp
    · exact Or.inl ⟨before, b, init, hinit, hp⟩
  · rintro (⟨before, b, after, rfl, hp⟩ | hp)
    · exact ⟨before, b, after ++ [a], by simp, hp⟩
    · exact ⟨as, a, [], rfl, hp⟩

theorem Happens.append (h : Happens P s as) (bs : List Action) : Happens P s (as ++ bs) := by
  obtain ⟨before, a, after, rfl, hp⟩ := h
  exact ⟨before, a, after ++ bs, by simp, hp⟩

theorem Happens.concat (h : Happens P s as) (a : Action) : Happens P s (as ++ [a]) :=
  h.append [a]

theorem Happens.last (h : P (s.run as) a) : Happens P s (as ++ [a]) := happens_concat.2 (Or.inr h)

theorem Happens.imp (h : ∀ t a, P t a → Q t a) (hp : Happens P s as) : Happens Q s as := by
  obtain ⟨before, a, after, rfl, hp⟩ := hp
  exact ⟨before, a, after, rfl, h _ _ hp⟩

theorem always_concat : Always P s (as ++ [a]) ↔ Always P s as ∧ P (s.run as) a := by
  constructor
  · intro h
    refine ⟨?_, h as a [] rfl⟩
    rintro before b after rfl
    exact h before b (after ++ [a]) (by simp)
  · rintro ⟨h, hp⟩ before b after heq
    rcases concat_eq_append_cons heq with ⟨rfl, rfl⟩ | ⟨init, hinit⟩
    · exact hp
    · exact h before b init hinit

@[simp] theorem always_nil : Always P s [] := by
  intro before a after h
  simp at h

theorem always_cons : Always P s (a :: as) ↔ P s a ∧ Always P (s.act a) as := by
  constructor
  · intro h
    refine ⟨h [] a as rfl, ?_⟩
    rintro before b after rfl
    exact h (a :: before) b after rfl
  · rintro ⟨hp, h⟩ before b after heq
    cases before with
    | nil => cases heq; exact hp
    | cons c before => cases heq; exact h before b after rfl

/-- What every action preserves holds at the end of every run. -/
theorem run_preserves {I : Session → Prop} (step : ∀ t a, I t → I (t.act a)) (h : I s)
    (as : List Action) : I (s.run as) := by
  induction as generalizing s with
  | nil => exact h
  | cons a as ih => exact ih (step s a h)

/-! The last moment of its kind -/

variable {before bs : List Action}

/-- `P` holds at this moment of the run, and at no moment after it. -/
inductive Last (P : Session → Action → Prop) (s : Session) : List Action → List Action → Action →
    Prop
  | intro {before : List Action} {a : Action} (after : List Action) (holds : P (s.run before) a)
      (never : Always (fun t b => ¬ P t b) ((s.run before).act a) after) :
    Last P s (before ++ a :: after) before a

@[simp] theorem not_last_nil : ¬ Last P s [] before a := by
  intro h
  generalize hnil : ([] : List Action) = as at h
  cases h
  simp at hnil

theorem Last.holds (h : Last P s as before a) : P (s.run before) a := by
  cases h with
  | intro _ holds => exact holds

/-- The last moment of a longer run is its end, or was the last one before. -/
theorem last_concat {b : Action} :
    Last P s (as ++ [a]) before b ↔
      (P (s.run as) a ∧ before = as ∧ b = a) ∨ (¬ P (s.run as) a ∧ Last P s as before b) := by
  constructor
  · intro h
    generalize hlonger : as ++ [a] = longer at h
    obtain ⟨after, holds, never⟩ := h
    rcases List.eq_nil_or_concat after with rfl | ⟨init, last, rfl⟩
    · obtain ⟨rfl, hb⟩ := List.append_inj' hlonger rfl
      cases hb
      exact Or.inl ⟨holds, rfl, rfl⟩
    · have hinit : as ++ [a] = (before ++ b :: init) ++ [last] := by simpa using hlonger
      obtain ⟨rfl, hlast⟩ := List.append_inj' hinit rfl
      cases hlast
      rw [List.concat_eq_append] at never
      obtain ⟨never, hnot⟩ := always_concat.1 never
      exact Or.inr ⟨by rwa [run_append], init, holds, never⟩
  · rintro (⟨holds, rfl, rfl⟩ | ⟨hnot, after, holds, never⟩)
    · exact ⟨[], holds, always_nil⟩
    · rw [List.append_assoc]
      refine ⟨after ++ [a], holds, always_concat.2 ⟨never, ?_⟩⟩
      rwa [run_append] at hnot

/-- There is one last moment. -/
theorem Last.unique {before' : List Action} {a' : Action} (h : Last P s as before a)
    (h' : Last P s as before' a') : before' = before ∧ a' = a := by
  induction as using List.reverseRecOn with
  | nil => exact absurd h not_last_nil
  | append_singleton as b ih =>
    rcases last_concat.1 h with ⟨hp, rfl, rfl⟩ | ⟨hnot, h⟩
    · rcases last_concat.1 h' with ⟨-, hbefore, ha⟩ | ⟨hnot, -⟩
      · exact ⟨hbefore, ha⟩
      · exact absurd hp hnot
    · rcases last_concat.1 h' with ⟨hp, -⟩ | ⟨-, h'⟩
      · exact absurd hp hnot
      · exact ih h h'

theorem last_append_iff {b : Action} (never : Always (fun t b => ¬ P t b) (s.run as) bs) :
    Last P s (as ++ bs) before b ↔ Last P s as before b := by
  induction bs using List.reverseRecOn with
  | nil => rw [List.append_nil]
  | append_singleton bs a ih =>
    obtain ⟨never, hnot⟩ := always_concat.1 never
    rw [← run_append] at hnot
    rw [← List.append_assoc, last_concat, ih never]
    simp only [hnot, false_and, not_false_eq_true, true_and, false_or]

/-- Behind the last moment of one kind there is none of a kind that it covers. -/
theorem Last.never (h : Last Q s as before a)
    (sub : ∀ as b, P (s.run as) b → Q (s.run as) b) :
    ∃ after, as = before ++ a :: after ∧
      Always (fun t b => ¬ P t b) ((s.run before).act a) after := by
  obtain ⟨after, -, never⟩ := h
  refine ⟨after, rfl, ?_⟩
  rintro mid b rest hafter hp
  have hrun : ((s.run before).act a).run mid = s.run (before ++ a :: mid) := by simp
  rw [hrun] at hp
  have hq := sub _ _ hp
  rw [← hrun] at hq
  exact never mid b rest hafter hq

end RemoteInterpreter.Session
