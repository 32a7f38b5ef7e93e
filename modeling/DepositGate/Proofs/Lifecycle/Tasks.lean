import Mathlib.Data.List.Perm.Basic
import DepositGate.Proofs.Lifecycle.Transition

/-!
# What becomes of listeners

The task of a listener is started by its run and is at work until it ends by itself or is aborted with
the run. A history tells of all three, and `History.accounts` balances them: what a run has started and
what has neither ended nor been aborted since is what it has at work.
-/

namespace DepositGate.Lifecycle

variable {places : List Place} {s t : State} {n k : Nat} {r r' : Run} {m : Move}

/-! ## Tasks at work -/

def atWork (tasks : List Task) : List Place :=
  (tasks.filter (·.ending.isNone)).map Task.place

@[simp] theorem Run.started_tasks (place : Place) (places : List Place) (r : Run) :
    (r.started place places).tasks = r.tasks ++ [⟨place, none⟩] := rfl

@[simp] theorem Run.abandoned_tasks (fault : Option ServerFault) (r : Run) :
    (r.abandoned fault).tasks = [] := rfl

theorem atWork_append_started (tasks : List Task) (place : Place) :
    atWork (tasks ++ [⟨place, none⟩]) = atWork tasks ++ [place] := by
  simp [atWork]

theorem atWork_set_ended {tasks : List Task} {i : Nat} {place : Place} (ending : Ending)
    (htask : tasks[i]? = some ⟨place, none⟩) :
    (atWork tasks).Perm (place :: atWork (tasks.set i ⟨place, some ending⟩)) := by
  induction tasks generalizing i with
  | nil => simp at htask
  | cons task tasks ih =>
      cases i with
      | zero =>
          obtain rfl : task = ⟨place, none⟩ := by simpa using htask
          simp [atWork]
      | succ i =>
          have hrest := ih (i := i) (by simpa using htask)
          cases hending : task.ending with
          | some e => simpa [atWork, hending] using hrest
          | none =>
              have hswap := (hrest.cons task.place).trans (List.Perm.swap place task.place _)
              simpa [atWork, hending] using hswap

theorem atWork_eraseIdx_ended {tasks : List Task} {i : Nat} {place : Place} {ending : Ending}
    (htask : tasks[i]? = some ⟨place, some ending⟩) : atWork (tasks.eraseIdx i) = atWork tasks := by
  induction tasks generalizing i with
  | nil => rfl
  | cons task tasks ih =>
      cases i with
      | zero =>
          obtain rfl : task = ⟨place, some ending⟩ := by simpa using htask
          simp [atWork]
      | succ i =>
          have hrest := ih (i := i) (by simpa using htask)
          unfold atWork at hrest ⊢
          simp only [List.eraseIdx_cons_succ, List.filter_cons]
          split <;> simp [hrest]

/-! ## Histories -/

inductive Fate where
  | started
  | ended
  | aborted
deriving DecidableEq

/-- What befalls the task that a run has at a place. -/
structure TaskEvent where
  fate : Fate
  run : Nat
  place : Place

def tell (fate : Fate) (n : Nat) (ps : List Place) : List TaskEvent :=
  ps.map fun place ↦ ⟨fate, n, place⟩

/-- The events of the tasks of a run in one of its steps. A run that gives up aborts what it has at
work. -/
def State.runTells (s : State) (n : Nat) (r : Run) (m : Move) : List TaskEvent :=
  match m, r.stage with
  | .register _, .opening (place :: _) =>
    if s.token.isNone then tell .aborted n (Lifecycle.atWork r.tasks)
    else if place.certificate.isSome then []
    else tell .started n [place]
  | .prepare _ none, .preparing place _ => tell .started n [place]
  | .prepare _ (some _), .preparing _ _ => tell .aborted n (Lifecycle.atWork r.tasks)
  | .finish _ task _, _ => tell .ended n ((r.tasks[task]?).toList.map Task.place)
  | .drain _, .draining _ => tell .aborted n (Lifecycle.atWork r.tasks)
  | _, _ => []

def State.tells (s : State) (m : Move) : List TaskEvent :=
  match m.number? with
  | some n => ((s.runs[n]?).map fun r ↦ s.runTells n r m).getD []
  | none => []

/-- The states that a server may get into, with the events of tasks on the way there. -/
inductive History (places : List Place) : List TaskEvent → State → Prop where
  | initial : History places [] .initial
  | step {told : List TaskEvent} {s t : State} (m : Move) : History places told s →
      s.step? places m = some t → History places (told ++ s.tells m) t

theorem reachable_iff_exists_history : Reachable places s ↔ ∃ told, History places told s := by
  constructor
  · intro h
    induction h with
    | initial => exact ⟨[], .initial⟩
    | step m _ hstep ih =>
        obtain ⟨told, htold⟩ := ih
        exact ⟨_, .step m htold hstep⟩
  · rintro ⟨told, h⟩
    induction h with
    | initial => exact .initial
    | step m _ hstep ih => exact .step m ih hstep

/-- The places of the tasks of a run that something has befallen. -/
def befallen (fate : Fate) (n : Nat) (told : List TaskEvent) : List Place :=
  (told.filter fun e ↦ e.fate = fate ∧ e.run = n).map TaskEvent.place

@[simp] theorem befallen_nil (fate : Fate) (n : Nat) : befallen fate n [] = [] := rfl

@[simp] theorem befallen_append (fate : Fate) (n : Nat) (told told' : List TaskEvent) :
    befallen fate n (told ++ told') = befallen fate n told ++ befallen fate n told' := by
  simp [befallen]

@[simp] theorem befallen_tell (fate fate' : Fate) (n k : Nat) (ps : List Place) :
    befallen fate n (tell fate' k ps) = if fate' = fate ∧ k = n then ps else [] := by
  by_cases h : fate' = fate ∧ k = n
  · simp [befallen, tell, List.filter_map, Function.comp_def, h]
  · simp [befallen, tell, List.filter_map, Function.comp_def, h]

/-! ## Balance -/

/-- What is at work after some events, and what was before. -/
def Balanced (n : Nat) (before : List Place) (told : List TaskEvent) (after : List Place) : Prop :=
  (before ++ befallen .started n told).Perm
    (befallen .ended n told ++ befallen .aborted n told ++ after)

theorem balanced_nil (n : Nat) (places : List Place) : Balanced n places [] places := by
  simp [Balanced]

theorem Balanced.append {before between after : List Place} {told told' : List TaskEvent}
    (h : Balanced n before told between) (h' : Balanced n between told' after) :
    Balanced n before (told ++ told') after := by
  unfold Balanced at h h' ⊢
  rw [List.perm_iff_count] at h h' ⊢
  intro place
  have hcount := h place
  have hcount' := h' place
  simp only [befallen_append, List.count_append] at hcount hcount' ⊢
  omega

theorem balanced_tell_of_ne (h : k ≠ n) (fate : Fate) (ps before : List Place) :
    Balanced n before (tell fate k ps) before := by
  simp [Balanced, h]

theorem balanced_started (n : Nat) (place : Place) (tasks : List Task) :
    Balanced n (atWork tasks) (tell .started n [place]) (atWork (tasks ++ [⟨place, none⟩])) := by
  simp [Balanced, atWork_append_started]

theorem balanced_aborted (n : Nat) (tasks : List Task) :
    Balanced n (atWork tasks) (tell .aborted n (atWork tasks)) (atWork []) := by
  simp [Balanced, atWork]

theorem balanced_ended {tasks : List Task} {i : Nat} {place : Place} (n : Nat) (ending : Ending)
    (htask : tasks[i]? = some ⟨place, none⟩) :
    Balanced n (atWork tasks) (tell .ended n [place])
      (atWork (tasks.set i ⟨place, some ending⟩)) := by
  simpa [Balanced] using atWork_set_ended ending htask

/-- A step of a run takes its tasks from what was at work to what is. -/
theorem RunTransition.balanced (h : RunTransition s n r m t) :
    ∃ r', t.runs = s.runs.set n r' ∧
      Balanced n (atWork r.tasks) (s.runTells n r m) (atWork r'.tasks) := by
  cases h with
  | givenUp hstage htoken =>
      refine ⟨_, rfl, ?_⟩
      simpa [State.runTells, hstage, htoken] using balanced_aborted n r.tasks
  | opened hstage htoken hplain =>
      refine ⟨_, rfl, ?_⟩
      simpa [State.runTells, hstage, htoken, hplain] using balanced_started n _ r.tasks
  | announced hstage htoken htls =>
      refine ⟨_, rfl, ?_⟩
      simpa [State.runTells, hstage, htoken, Option.isSome_iff_ne_none, htls]
        using balanced_nil n (atWork r.tasks)
  | prepared hstage =>
      refine ⟨_, rfl, ?_⟩
      simpa [State.runTells, hstage] using balanced_started n _ r.tasks
  | unprepared fault hstage =>
      refine ⟨_, rfl, ?_⟩
      simpa [State.runTells, hstage] using balanced_aborted n r.tasks
  | ended ending htask =>
      refine ⟨_, rfl, ?_⟩
      simpa [State.runTells, htask] using balanced_ended n ending htask
  | passed hstage htask hpass =>
      refine ⟨_, rfl, ?_⟩
      simpa [State.runTells, atWork_eraseIdx_ended htask] using balanced_nil n (atWork r.tasks)
  | faulted hstage htask hfault hlive =>
      refine ⟨_, rfl, ?_⟩
      simpa [State.runTells, atWork_eraseIdx_ended htask] using balanced_nil n (atWork r.tasks)
  | drained hstage =>
      refine ⟨_, rfl, ?_⟩
      simpa [State.runTells, hstage] using balanced_aborted n r.tasks
  | _ => exact ⟨_, rfl, balanced_nil n _⟩

/-! ## Runs among others -/

def tasksOf (runs : List Run) (n : Nat) : List Task :=
  ((runs[n]?).map Run.tasks).getD []

theorem tasksOf_of_getElem? {runs : List Run} (hrun : runs[n]? = some r) :
    tasksOf runs n = r.tasks := by
  simp [tasksOf, hrun]

theorem tasksOf_set {runs : List Run} (hrun : runs[n]? = some r) (r' : Run) :
    tasksOf (runs.set n r') n = r'.tasks := by
  obtain ⟨hlt, -⟩ := List.getElem?_eq_some_iff.mp hrun
  exact tasksOf_of_getElem? (List.getElem?_set_self hlt)

theorem tasksOf_set_ne (runs : List Run) (hne : n ≠ k) (r' : Run) :
    tasksOf (runs.set n r') k = tasksOf runs k := by
  simp [tasksOf, List.getElem?_set_ne hne]

theorem tasksOf_cancelled (runs : List Run) (n k : Nat) :
    tasksOf (runs.modify n fun r ↦ { r with cancelled := true }) k = tasksOf runs k := by
  unfold tasksOf
  rw [List.getElem?_modify]
  cases runs[k]? with
  | none => rfl
  | some r => by_cases hnk : n = k <;> simp [hnk]

theorem tasksOf_concat (runs : List Run) (stage : Stage) (n : Nat) :
    tasksOf (runs ++ [⟨false, [], stage⟩]) n = tasksOf runs n := by
  unfold tasksOf
  rcases Nat.lt_trichotomy n runs.length with hlt | rfl | hgt
  · rw [List.getElem?_append_left hlt]
  · simp
  · have hlength : (runs ++ [(⟨false, [], stage⟩ : Run)]).length ≤ n := by
      simpa using Nat.succ_le_of_lt hgt
    rw [List.getElem?_eq_none (Nat.le_of_lt hgt), List.getElem?_eq_none hlength]

theorem exists_runTells_eq_tell (s : State) (n : Nat) (r : Run) (m : Move) :
    ∃ fate ps, s.runTells n r m = tell fate n ps := by
  unfold State.runTells
  split
  · split
    · exact ⟨_, _, rfl⟩
    · split
      · exact ⟨.started, [], rfl⟩
      · exact ⟨_, _, rfl⟩
  · exact ⟨_, _, rfl⟩
  · exact ⟨_, _, rfl⟩
  · exact ⟨_, _, rfl⟩
  · exact ⟨_, _, rfl⟩
  · exact ⟨.started, [], rfl⟩

/-- Every step takes the tasks of every run from what was at work to what is. -/
theorem Transition.balanced (h : Transition places s m t) (k : Nat) :
    Balanced k (atWork (tasksOf s.runs k)) (s.tells m) (atWork (tasksOf t.runs k)) := by
  cases h with
  | accepted hphase =>
      rw [tasksOf_concat]
      exact balanced_nil k _
  | cancelled htoken =>
      rw [tasksOf_cancelled]
      exact balanced_nil k _
  | @run n r _ _ hrun hstep =>
      have htells : s.tells m = s.runTells n r m := by
        simp [State.tells, hstep.number?_eq, hrun]
      obtain ⟨r', hruns, hbalanced⟩ := hstep.balanced
      rw [htells, hruns]
      by_cases hnk : n = k
      · subst hnk
        rwa [tasksOf_of_getElem? hrun, tasksOf_set hrun]
      · obtain ⟨fate, ps, htell⟩ := exists_runTells_eq_tell s n r m
        rw [htell, tasksOf_set_ne _ hnk]
        exact balanced_tell_of_ne hnk fate ps _
  | _ => exact balanced_nil k _

/-- What a run has started and what has neither ended nor been aborted since is what it has at work. -/
theorem History.accounts {told : List TaskEvent} (h : History places told s) (n : Nat) :
    (befallen .started n told).Perm
      (befallen .ended n told ++ befallen .aborted n told ++ atWork (tasksOf s.runs n)) := by
  suffices hbalanced : Balanced n [] told (atWork (tasksOf s.runs n)) by
    simpa [Balanced] using hbalanced
  induction h with
  | initial => exact balanced_nil n _
  | step m _ hstep ih => exact ih.append ((step?_eq_some_iff.mp hstep).balanced n)

end DepositGate.Lifecycle
