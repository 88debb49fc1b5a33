import Mathlib.Data.List.Forall2
import Mathlib.Data.List.TakeWhile
import NamespaceLogging.Proofs.LogCalls

/-!
# Captured stacks

A captured stack begins with the frames of the logging machinery, which lead into the namespace of the
machinery and out of it again.  How many they are is found on the first stack and kept for all others,
which may be shorter, or begin in another way.

## Main definitions

* `Backtrace.FirstRun`: the first run of frames inside a namespace.
* `Backtrace.LeadsIn`: frames that lead into a namespace for the first time, and end there.
* `System.Place`, `System.captureAll`: log calls in different places of a program, one after the other.

## Main results

* `Backtrace.overhead_of_firstRun`, `Backtrace.overhead_of_never_left`: where the frames of the machinery
  end.
* `System.on_captureAll`: all stacks lose the number of frames that was found first.
* `System.captureAll_trims`: no stack is emptied, and the call sites are found if all stacks begin in the
  same way.
-/

set_option autoImplicit false

namespace NamespaceLogging

open Act

namespace Backtrace

/-- The stack is `before`, `run` and `rest`, of which `run` is the first run of frames inside the
namespace, as long as it can be. -/
structure FirstRun (ns : String) (frames before run rest : List Frame) : Prop where
  split : frames = before ++ (run ++ rest)
  outside : ∀ f ∈ before, f.isIn ns = false
  inside : ∀ f ∈ run, f.isIn ns = true
  nonempty : run ≠ []
  maximal : ∀ f ∈ rest.head?, f.isIn ns = false

/-- The frames lead into the namespace, once, and end there. -/
def LeadsIn (ns : String) (frames : List Frame) : Prop :=
  ∃ before run, frames = before ++ run ∧ (∀ f ∈ before, f.isIn ns = false) ∧ run ≠ [] ∧
    ∀ f ∈ run, f.isIn ns = true

variable {ns : String} {frames before run rest : List Frame} {f : Frame}

/-! ## Where the frames of the machinery end -/

/-- A prefix that ends just where a property does is what is taken while it holds. -/
lemma takeWhile_append_of_head {p : Frame → Bool} (h : ∀ f ∈ before, p f = true)
    (hrest : ∀ f ∈ rest.head?, p f = false) : (before ++ rest).takeWhile p = before := by
  rw [List.takeWhile_append_of_pos h]
  cases rest with
  | nil => simp
  | cons f rest => simp [hrest f rfl]

/-- The frames up to the first run, and the run, are what is skipped. -/
lemma FirstRun.skipped (h : FirstRun ns frames before run rest) :
    (frames.takeWhile fun f => !f.isIn ns) = before ∧
      ((frames.drop before.length).takeWhile fun f => f.isIn ns) = run := by
  obtain ⟨rfl, houtside, hinside, hnonempty, hmaximal⟩ := h
  constructor
  · refine takeWhile_append_of_head (by simpa using houtside) ?_
    obtain ⟨f, run, rfl⟩ := List.exists_cons_of_ne_nil hnonempty
    simpa using hinside f List.mem_cons_self
  · rw [List.drop_left]
    exact takeWhile_append_of_head hinside hmaximal

/-- **The frames of the machinery end with the first run**, if there is a frame behind it. -/
lemma overhead_of_firstRun (h : FirstRun ns frames before run (f :: rest)) :
    overhead frames ns = (before ++ run).length := by
  obtain ⟨hbefore, hrun⟩ := h.skipped
  have hlt : before.length + run.length < frames.length := by
    simp only [h.split, List.length_append, List.length_cons]
    omega
  simp only [overhead, hbefore, hrun, if_pos hlt, List.length_append]

/-- A stack that never leaves the namespace, or never enters it, keeps its last frame. -/
lemma overhead_of_never_left (h : ∀ before run f rest, ¬ FirstRun ns frames before run (f :: rest)) :
    overhead frames ns = frames.length - 1 := by
  simp only [overhead]
  set before := frames.takeWhile fun f => !f.isIn ns
  set behind := frames.dropWhile fun f => !f.isIn ns with hbehind
  set run := behind.takeWhile fun f => f.isIn ns
  have hframes : before ++ behind = frames := List.takeWhile_append_dropWhile
  have hsplit : run ++ behind.dropWhile (fun f => f.isIn ns) = behind :=
    List.takeWhile_append_dropWhile
  have hdrop : frames.drop before.length = behind := by rw [← hframes, List.drop_left]
  have hall : ¬ before.length + run.length < frames.length := by
    intro hlt
    have hne : behind.dropWhile (fun f => f.isIn ns) ≠ [] := by
      intro hnil
      rw [← hframes, ← hsplit, hnil] at hlt
      simp at hlt
    obtain ⟨f, rest, hrest⟩ := List.exists_cons_of_ne_nil hne
    have hf : f.isIn ns = false := by
      have hhead := List.head?_dropWhile_not (fun f : Frame => f.isIn ns) behind
      simpa [hrest] using hhead
    have hrun : run ≠ [] := by
      -- the first frame behind `before` is inside the namespace, and so it is not `f`
      intro hnil
      have hhead := List.head?_dropWhile_not (fun f : Frame => !f.isIn ns) frames
      rw [← hbehind, ← hsplit, hnil, hrest] at hhead
      simp [hf] at hhead
    refine h before run f rest ⟨?_, fun g hg => ?_, fun g hg => ?_, hrun, by simpa using hf⟩
    · rw [← hrest, hsplit, hframes]
    · simpa using List.mem_takeWhile_imp (p := fun f : Frame => !f.isIn ns) hg
    · exact List.mem_takeWhile_imp (p := fun f : Frame => f.isIn ns) hg
  rw [hdrop]
  exact if_neg hall

/-- There is always a frame left. -/
lemma overhead_lt (h : frames ≠ []) : overhead frames ns < frames.length := by
  have hpos := List.length_pos_iff.mpr h
  rw [overhead]
  split <;> omega

/-- Frames that lead into the namespace are those of the machinery. -/
lemma overhead_of_leadsIn (h : LeadsIn ns before) (hf : f.isIn ns = false) :
    overhead (before ++ f :: rest) ns = before.length := by
  obtain ⟨front, run, rfl, houtside, hnonempty, hinside⟩ := h
  have hfirst : FirstRun ns (front ++ run ++ f :: rest) front run (f :: rest) :=
    ⟨by simp, houtside, hinside, hnonempty, by simpa using hf⟩
  exact overhead_of_firstRun hfirst

/-! ## Trimmed stacks -/

/-- What is left of a stack is its end. -/
lemma trimmed_suffix (known : Option Nat) (frames : List Frame) (ns : String) :
    (trimmed known frames ns).1 <:+ frames := List.drop_suffix _ _

/-- No stack is emptied, however many frames the machinery had on another one. -/
lemma trimmed_ne_nil (known : Option Nat) (h : frames ≠ []) (ns : String) :
    (trimmed known frames ns).1 ≠ [] := by
  have hpos := List.length_pos_iff.mpr h
  rw [trimmed, Ne, List.drop_eq_nil_iff]
  omega

/-- A stack whose first frames are as many as are lost. -/
lemma trimmed_of_length (before : List Frame) (f : Frame) (rest : List Frame) (ns : String) :
    (trimmed (some before.length) (before ++ f :: rest) ns).1 = f :: rest := by
  have hmin : min before.length ((before ++ f :: rest).length - 1) = before.length := by
    simp only [List.length_append, List.length_cons]
    omega
  rw [trimmed, Option.getD_some, hmin, List.drop_left]

end Backtrace

/-! ## Log calls in different places -/

namespace System

/-- A log call in some place of a program: through which router it goes, and what the call stack is
then. -/
structure Place where
  router : RouterId
  call : LogCall
  stack : List Frame

/-- Makes the record of a log call in its place. -/
def captureIn (place : Place) : Act RecordId := do
  modify fun s => { s with callStack := place.stack }
  capture place.router place.call

/-- Makes the records of log calls one after the other. -/
def captureAll : List Place → Act (List RecordId)
  | [] => return []
  | place :: later => do
    let id ← captureIn place
    return id :: (← captureAll later)

/-- The router gives its records a call stack. -/
def Captures (s : System) (r : RouterId) : Prop := ∃ y, s.routers[r]? = some y ∧ y.capture = true

/-- The number of frames that the stacks lose: the known one, or the one found on the first stack. -/
def lost (s : System) : List Place → Nat
  | [] => s.overhead.getD 0
  | place :: _ => s.overhead.getD (Backtrace.overhead place.stack s.machinery)

/-- The record of a log call has the trimmed stack. -/
def Trims (ns : String) (count : Nat) (t : System) (place : Place) (id : RecordId) : Prop :=
  ∃ r, t.records[id]? = some r ∧ r.stack = (Backtrace.trimmed (some count) place.stack ns).1

variable {s t : System} {places : List Place} {place : Place}

/-- Capturing a record at a place makes the next record, with a stack, as seen from that place. -/
lemma on_captureIn (h : s.Captures place.router) :
    (captureIn place).on s =
      (.ok s.records.size, { s with callStack := place.stack }.captured true place.call) := by
  obtain ⟨y, hy, hcapture⟩ := h
  have hon : (capture place.router place.call).on { s with callStack := place.stack } = _ :=
    on_capture place.call hy
  rw [captureIn, on_bind_of_ok (on_modify _), hon, hcapture]

/-- **All stacks lose the number of frames that was found first.**

**Proof sketch.** Induction on the log calls: the first one makes its record and leaves the number behind
for those that follow. -/
lemma on_captureAll (places : List Place) (s : System) (h : ∀ p ∈ places, s.Captures p.router) :
    ∃ ids t, (captureAll places).on s = (.ok ids, t) ∧
      (∀ (id : RecordId) (r : Record), s.records[id]? = some r → t.records[id]? = some r) ∧
      t.overhead = (if places = [] then s.overhead else some (s.lost places)) ∧
      List.Forall₂ (Trims s.machinery (s.lost places) t) places ids := by
  induction places generalizing s with
  | nil => exact ⟨[], s, rfl, fun _ _ h => h, rfl, .nil⟩
  | cons place later ih =>
    set u := { s with callStack := place.stack }.captured true place.call
    obtain ⟨ids, t, hon, hrecords, hoverhead, hrest⟩ :=
      ih u fun p hp => h p (List.mem_cons_of_mem _ hp)
    have hfirst := on_captureIn (h place List.mem_cons_self)
    have hknown : u.overhead = some (s.lost (place :: later)) := rfl
    have hlost : u.lost later = s.lost (place :: later) := by cases later <;> rfl
    rw [hlost] at hrest hoverhead
    refine ⟨s.records.size :: ids, t, ?_, fun id r hr => hrecords id r ?_, ?_, .cons ?_ hrest⟩
    · rw [captureAll, on_bind_of_ok hfirst, on_bind_of_ok hon]
      rfl
    · obtain ⟨hlt, rfl⟩ := Array.getElem?_eq_some_iff.mp hr
      exact Array.getElem?_push_lt hlt
    · rw [hoverhead, hknown, if_neg (List.cons_ne_nil _ _), ite_self]
    · exact ⟨_, hrecords _ _ (Array.getElem?_push_size ..), rfl⟩

/-- **Stacks are trimmed so that the call sites are found.**  The machinery's frames on a stack end with
its first run of frames inside the namespace, if there is a frame behind that run, and else before the last
frame; at any rate a frame is left.  Log calls that are made in different places lose as many frames as
were found on the first stack, so that what is left of each stack is its end, with a frame at least, if
there was one.  If all stacks begin with the same frames, which lead into the namespace once, and go on
outside of it, then exactly those are lost. -/
theorem captureAll_trims (s : System) (places : List Place)
    (hplaces : ∀ p ∈ places, s.Captures p.router) :
    (∀ (ns : String) (frames : List Frame),
      (frames = [] → Backtrace.overhead frames ns = 0) ∧
      (frames ≠ [] → Backtrace.overhead frames ns < frames.length) ∧
      (∀ before run f rest, Backtrace.FirstRun ns frames before run (f :: rest) →
        Backtrace.overhead frames ns = (before ++ run).length) ∧
      ((∀ before run f rest, ¬ Backtrace.FirstRun ns frames before run (f :: rest)) →
        Backtrace.overhead frames ns = frames.length - 1)) ∧
    ∃ ids t, (captureAll places).on s = (.ok ids, t) ∧
      (∀ first later, places = first :: later → s.overhead = none →
        t.overhead = some (Backtrace.overhead first.stack s.machinery)) ∧
      List.Forall₂ (fun place id => ∃ r, t.records[id]? = some r ∧ r.stack <:+ place.stack ∧
        (place.stack ≠ [] → r.stack ≠ [])) places ids ∧
      ∀ m, s.overhead = none → Backtrace.LeadsIn s.machinery m →
        (∀ p ∈ places, ∃ f rest, p.stack = m ++ f :: rest ∧ f.isIn s.machinery = false) →
        List.Forall₂ (fun place id => ∃ r, t.records[id]? = some r ∧ place.stack = m ++ r.stack)
          places ids := by
  refine ⟨fun ns frames => ⟨?_, Backtrace.overhead_lt, fun _ _ _ _ => Backtrace.overhead_of_firstRun,
    Backtrace.overhead_of_never_left⟩, ?_⟩
  · rintro rfl
    rfl
  obtain ⟨ids, t, hon, -, hoverhead, htrims⟩ := on_captureAll places s hplaces
  refine ⟨ids, t, hon, ?_, htrims.imp ?_, fun m hnone hm hstacks => ?_⟩
  · rintro first later rfl hnone
    rw [hoverhead, if_neg (List.cons_ne_nil _ _), lost, hnone, Option.getD_none]
  · rintro place id ⟨r, hr, hstack⟩
    refine ⟨r, hr, hstack ▸ Backtrace.trimmed_suffix _ _ _, fun hne => ?_⟩
    exact hstack ▸ Backtrace.trimmed_ne_nil _ hne _
  · cases places with
    | nil =>
      cases htrims
      exact .nil
    | cons first later =>
      obtain ⟨f, rest, hfirst, hf⟩ := hstacks first List.mem_cons_self
      have hlost : s.lost (first :: later) = m.length := by
        rw [lost, hnone, Option.getD_none, hfirst, Backtrace.overhead_of_leadsIn hm hf]
      rw [hlost] at htrims
      refine ((List.forall₂_and_left _ _).mpr ⟨hstacks, htrims⟩).imp ?_
      rintro place id ⟨⟨f, rest, hplace, -⟩, r, hr, hstack⟩
      rw [hplace, Backtrace.trimmed_of_length] at hstack
      exact ⟨r, hr, hstack ▸ hplace⟩

/-- The frames of the machinery, before and inside its namespace. -/
def machineryFrames : List Frame :=
  [.make "std::backtrace::capture" none none, .make "lib::stack::capture" none none,
    .make "lib::router::Router::capture" none none, .make "lib::router::Router::log" none none]

/-- Two places in a program; the machinery stands once more on the stack of the second one. -/
def twoPlaces : List Place :=
  [⟨0, smallCall "x", machineryFrames ++ [.make "app::main" none none]⟩,
    ⟨0, smallCall "y", machineryFrames ++ [.make "app::db::Pool::get" none none,
      .make "lib::router::Router::log" none none, .make "app::main" none none]⟩]

/-- A router that gives its records a call stack, before the first log call. -/
def capturing : System :=
  (initial "lib::router" [] ⟨2024, 1, 1, 0, 0, 0, 0⟩).play 8
    [.makeRouter "router" (.ok (.startingAt .info)), .onRouter "router" (.setCapture true)]

/-- Four frames are lost in both places. -/
theorem captureAll_trims_of_two : (∀ p ∈ twoPlaces, capturing.Captures p.router) ∧
    ∃ ids t, (captureAll twoPlaces).on capturing = (.ok ids, t) ∧ t.overhead = some 4 ∧
      List.Forall₂ (fun place id => ∃ r, t.records[id]? = some r ∧
        place.stack = machineryFrames ++ r.stack) twoPlaces ids := by
  have hrouter : capturing.routers[0]?.map Router.capture = some true := by decide +kernel
  have hplaces : ∀ p ∈ twoPlaces, capturing.Captures p.router := by
    obtain ⟨y, hy, hcapture⟩ := Option.map_eq_some_iff.mp hrouter
    have hzero : ∀ p ∈ twoPlaces, p.router = 0 := by simp [twoPlaces]
    exact fun p hp => ⟨y, hzero p hp ▸ hy, hcapture⟩
  have hnone : capturing.overhead = none := by decide +kernel
  have hname : capturing.machinery = "lib::router" := by decide +kernel
  obtain ⟨-, ids, t, hon, hfirst, -, hexact⟩ := captureAll_trims capturing twoPlaces hplaces
  refine ⟨hplaces, ids, t, hon, ?_, hexact machineryFrames hnone ?_ ?_⟩
  · rw [hfirst _ _ rfl hnone, hname]
    decide +kernel
  · rw [hname]
    exact ⟨machineryFrames.take 2, machineryFrames.drop 2, rfl, by decide +kernel, by decide +kernel,
      by decide +kernel⟩
  · rw [hname]
    simp only [twoPlaces, List.mem_cons, List.not_mem_nil, or_false, forall_eq_or_imp, forall_eq]
    exact ⟨⟨_, _, rfl, by decide +kernel⟩, ⟨_, _, rfl, by decide +kernel⟩⟩

end System

end NamespaceLogging
