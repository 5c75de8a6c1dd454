import Mathlib.Data.List.Basic
import Typings.Journal

/-!
# Actions and what they report

How steps in a row go on or stop, which classes the journal of a session shows as reported and as asked for, and when two
steps come to the same value or failure.
-/

namespace Typings

/-! ## One step after the other -/

section Steps

variable {ε σ α β : Type} {f : α → EStateM ε σ β} {a : α} {as : List α} {b : β} {bs : List β} {e : ε} {s s' s'' : σ}

lemma get_eq (s : σ) : (get : EStateM ε σ σ) s = .ok s s := rfl

lemma bind_of_ok {step : EStateM ε σ α} (h : step s = .ok a s') (next : α → EStateM ε σ β) :
    (step >>= next) s = next a s' := by
  simp only [bind, EStateM.bind, h]

lemma bind_of_error {step : EStateM ε σ α} (h : step s = .error e s') (next : α → EStateM ε σ β) :
    (step >>= next) s = .error e s' := by
  simp only [bind, EStateM.bind, h]

lemma exists_of_bind_ok {step : EStateM ε σ α} {next : α → EStateM ε σ β} (h : (step >>= next) s = .ok b s'') :
    ∃ a s', step s = .ok a s' ∧ next a s' = .ok b s'' := by
  cases hstep : step s with
  | error e s' =>
    rw [bind_of_error hstep] at h
    cases h
  | ok a s' =>
    rw [bind_of_ok hstep] at h
    exact ⟨a, s', rfl, h⟩

lemma mapM_cons_ok (hfirst : f a s = .ok b s') (hrest : as.mapM f s' = .ok bs s'') :
    (a :: as).mapM f s = .ok (b :: bs) s'' := by
  rw [List.mapM_cons]
  simp only [bind, EStateM.bind, hfirst, hrest]
  rfl

lemma mapM_cons_stopped (hfirst : f a s = .error e s') : (a :: as).mapM f s = .error e s' := by
  rw [List.mapM_cons]
  simp only [bind, EStateM.bind, hfirst]

lemma mapM_cons_error (hfirst : f a s = .ok b s') (hrest : as.mapM f s' = .error e s'') :
    (a :: as).mapM f s = .error e s'' := by
  rw [List.mapM_cons]
  simp only [bind, EStateM.bind, hfirst, hrest]

/-- What holds of a list of steps: nothing is done for no steps, and the first step fails, or a later one does, or all
succeed. -/
theorem mapM_induct (one : α → σ → EStateM.Result ε σ β → Prop)
    (all : List α → σ → EStateM.Result ε σ (List β) → Prop) (step : ∀ a s, one a s (f a s))
    (nil : ∀ s, all [] s (.ok [] s))
    (first : ∀ a as s e s', one a s (.error e s') → all (a :: as) s (.error e s'))
    (later : ∀ a as s b s' e s'', one a s (.ok b s') → all as s' (.error e s'') → all (a :: as) s (.error e s''))
    (cons : ∀ a as s b s' bs s'', one a s (.ok b s') → all as s' (.ok bs s'') → all (a :: as) s (.ok (b :: bs) s''))
    (as : List α) (s : σ) : all as s (as.mapM f s) := by
  induction as generalizing s with
  | nil => exact nil s
  | cons a as ih =>
    have hfirst := step a s
    cases ha : f a s with
    | error e s' =>
      rw [ha] at hfirst
      rw [mapM_cons_stopped ha]
      exact first a as s e s' hfirst
    | ok b s' =>
      rw [ha] at hfirst
      have hrest := ih s'
      cases has : as.mapM f s' with
      | error e s'' =>
        rw [has] at hrest
        rw [mapM_cons_error ha has]
        exact later a as s b s' e s'' hfirst hrest
      | ok bs s'' =>
        rw [has] at hrest
        rw [mapM_cons_ok ha has]
        exact cons a as s b s' bs s'' hfirst hrest

end Steps

/-! ## Reports -/

/-- The value of a step or the cause of its failure. -/
def Action.valueOf {σ ε α : Type} : EStateM.Result ε (Session σ) α → Except ε α
  | .ok a _ => .ok a
  | .error e _ => .error e

/-- The session that a step leaves behind. -/
def Action.sessionOf {σ ε α : Type} : EStateM.Result ε (Session σ) α → Session σ
  | .ok _ s => s
  | .error _ s => s

/-- The class whose conversion starts with the event. -/
def Event.reportedClass? : Event → Option String
  | .opened className _ => some className
  | _ => none

/-- The class that a table was asked for. -/
def Event.askedClass? : Event → Option String
  | .lookedUp className => some className
  | _ => none

namespace Session

variable {σ : Type}

/-- The classes that were reported, in their order. -/
def reported (s : Session σ) : List String :=
  s.journal.toList.filterMap Event.reportedClass?

/-- The classes that were asked for, in their order. -/
def asked (s : Session σ) : List String :=
  s.journal.toList.filterMap Event.askedClass?

/-- The session after a class was reported and asked for. -/
def asking (pending : List String) (className : String) (s : Session σ) : Session σ :=
  { s with journal := (s.journal.push (.opened className pending)).push (.lookedUp className) }

/-- The session after further events. -/
def noting (events : List Event) (s : Session σ) : Session σ :=
  { s with journal := s.journal ++ events }

@[simp] lemma reported_asking (pending : List String) (className : String) (s : Session σ) :
    (s.asking pending className).reported = s.reported ++ [className] := by
  simp [reported, asking, Event.reportedClass?]

@[simp] lemma asked_asking (pending : List String) (className : String) (s : Session σ) :
    (s.asking pending className).asked = s.asked ++ [className] := by
  simp [asked, asking, List.filterMap_cons, Event.askedClass?]

@[simp] lemma reported_noting (events : List Event) (s : Session σ) :
    (s.noting events).reported = s.reported ++ events.filterMap Event.reportedClass? := by
  simp [reported, noting]

@[simp] lemma asked_noting (events : List Event) (s : Session σ) :
    (s.noting events).asked = s.asked ++ events.filterMap Event.askedClass? := by
  simp [asked, noting]

end Session

namespace Action

variable {σ ε : Type}

lemma state_eq (s : Session σ) : (state : Action σ ε σ) s = .ok s.state s := rfl

lemma report_eq (e : Event) (s : Session σ) :
    (report e : Action σ ε Unit) s = .ok () { s with journal := s.journal.push e } := rfl

lemma valueOf_ofExcept {α : Type} (r : Except ε α) (s : Session σ) : valueOf (ofExcept r s) = r := by
  cases r <;> rfl

lemma forM_report (events : List Event) (s : Session σ) :
    (events.forM report : Action σ ε PUnit) s = .ok ⟨⟩ (s.noting events) := by
  induction events generalizing s with
  | nil => simp [Session.noting]; rfl
  | cons e events ih =>
    have hnoting : (s.noting [e]).noting events = s.noting (e :: events) := by simp [Session.noting]
    rw [← hnoting, ← ih (s.noting [e])]
    rfl

/-- The steps after one that succeeds decide what is left behind. -/
lemma sessionOf_mapM_cons {α β : Type} {f : α → EStateM ε (Session σ) β} {a : α} {b : β} {s s' : Session σ}
    (hfirst : f a s = .ok b s') (as : List α) : sessionOf ((a :: as).mapM f s) = sessionOf (as.mapM f s') := by
  cases hrest : as.mapM f s' with
  | error e s'' => rw [mapM_cons_error hfirst hrest]
  | ok bs s'' =>
    rw [mapM_cons_ok hfirst hrest]
    rfl

end Action

/-! ## Steps that come to the same -/

namespace Action

variable {σ τ ε α β : Type} {rel : Session σ → Session τ → Prop}

/-- From related sessions both steps come to the same value or failure and leave related sessions behind. -/
def Alike (rel : Session σ → Session τ → Prop) (a : Action σ ε α) (b : Action τ ε α) : Prop :=
  ∀ s t, rel s t → valueOf (a s) = valueOf (b t) ∧ rel (sessionOf (a s)) (sessionOf (b t))

namespace Alike

lemma pure (x : α) : Alike rel (Pure.pure x : Action σ ε α) (Pure.pure x) :=
  fun _ _ hrel => ⟨rfl, hrel⟩

lemma throw (e : ε) : Alike rel (MonadExcept.throw e : Action σ ε α) (MonadExcept.throw e) :=
  fun _ _ hrel => ⟨rfl, hrel⟩

lemma ofExcept (r : Except ε α) : Alike rel (Action.ofExcept r : Action σ ε α) (Action.ofExcept r) := by
  cases r with
  | ok x => exact pure x
  | error e => exact throw e

lemma bind {a : Action σ ε α} {b : Action τ ε α} {f : α → Action σ ε β} {g : α → Action τ ε β} (hab : Alike rel a b)
    (hfg : ∀ x, Alike rel (f x) (g x)) : Alike rel (a >>= f) (b >>= g) := by
  intro s t hrel
  obtain ⟨hvalue, hnext⟩ := hab s t hrel
  cases ha : a s with
  | error e s' =>
    cases hb : b t with
    | error e' t' =>
      rw [ha, hb] at hvalue hnext
      cases hvalue
      rw [bind_of_error ha, bind_of_error hb]
      exact ⟨rfl, hnext⟩
    | ok y t' =>
      rw [ha, hb] at hvalue
      cases hvalue
  | ok x s' =>
    cases hb : b t with
    | error e' t' =>
      rw [ha, hb] at hvalue
      cases hvalue
    | ok y t' =>
      rw [ha, hb] at hvalue hnext
      cases hvalue
      rw [bind_of_ok ha, bind_of_ok hb]
      exact hfg x s' t' hnext

lemma mapM {as : List β} {f : β → Action σ ε α} {g : β → Action τ ε α} (hfg : ∀ a ∈ as, Alike rel (f a) (g a)) :
    Alike rel (as.mapM f) (as.mapM g) := by
  induction as with
  | nil => exact pure []
  | cons a as ih =>
    rw [List.mapM_cons, List.mapM_cons]
    refine (hfg a List.mem_cons_self).bind fun x => ?_
    exact (ih fun b hb => hfg b (List.mem_cons_of_mem _ hb)).bind fun xs => pure (x :: xs)

lemma filterMapM {as : List β} {f : β → Action σ ε (Option α)} {g : β → Action τ ε (Option α)}
    (hfg : ∀ a ∈ as, Alike rel (f a) (g a)) : Alike rel (as.filterMapM f) (as.filterMapM g) := by
  induction as with
  | nil => exact pure []
  | cons a as ih =>
    have hrest := ih fun b hb => hfg b (List.mem_cons_of_mem _ hb)
    rw [List.filterMapM_cons, List.filterMapM_cons]
    refine (hfg a List.mem_cons_self).bind fun x => ?_
    cases x with
    | none => exact hrest
    | some x => exact hrest.bind fun xs => pure (x :: xs)

lemma toExcept {ε' : Type} {a : Action σ ε α} {b : Action τ ε α} (hab : Alike rel a b) :
    Alike rel (Action.toExcept a : Action σ ε' (Except ε α)) (Action.toExcept b) := by
  intro s t hrel
  obtain ⟨hvalue, hnext⟩ := hab s t hrel
  simp only [Action.toExcept]
  cases ha : a s <;> cases hb : b t <;> rw [ha, hb] at hvalue hnext <;> cases hvalue <;> exact ⟨rfl, hnext⟩

end Alike

end Action

end Typings
