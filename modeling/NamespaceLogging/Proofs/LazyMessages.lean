import Mathlib.Data.List.Induction
import NamespaceLogging.Proofs.StreamEngines

/-!
# Messages are rendered late

A record renders its message when the message is first asked for, and keeps it.  It may be given other
arguments later, and it may be cloned before or after that: whatever was done before, the message is that
of the template and of the arguments that the record has now.

## Main definitions

* `Record.Use`: what can be done with a record.
* `Record.after`: a record and all of its clones, after they were used one by one.
* `Record.Coherent`: a message that is kept is the one that would be rendered anew.

## Main results

* `Record.Coherent.render_eq`: what a coherent record is after it was asked for its message.
* `Record.rendered_of_onOne`: how a record can have been rendered.
* `Record.messages_coherent`: messages that are kept cannot be told from new ones, and none is rendered
  that was not asked for.
-/

set_option autoImplicit false

namespace NamespaceLogging

open Act

namespace Record

/-! ## Uses of records -/

/-- What can be done with a record. -/
inductive Use where
  | withArgs (args : List Argument)
  | withCause (cause : Option Cause)
  | withSite (site : CallSite)
  | withStack (stack : List Frame)
  | clone
  | message
  | display
  | layOut (layout : Layout)

namespace Use

/-- The text that a record shows, if any, and the record afterwards. -/
def on (r : Record) : Use → Except RenderFault (Option String × Record)
  | withArgs args => .ok (none, r.withArgs args)
  | withCause cause => .ok (none, r.withCause cause)
  | withSite site => .ok (none, r.withSite site)
  | withStack stack => .ok (none, r.withStack stack)
  | clone => .ok (none, r)
  | message => r.render.map fun r => (some r.message, r)
  | display => r.render.map fun r => (some r.display, r)
  | layOut layout => (layout.render r).map fun shown => (some shown.1, shown.2)

/-- Whether the message is shown. -/
def showsMessage : Use → Bool
  | message | display => true
  | layOut layout => layout.showsMessage
  | _ => false

/-- Some records after the one at a place was used.  A clone is put behind the others, and nothing has
happened if the message cannot be written. -/
def onOne (i : Nat) (use : Use) (records : List Record) : List Record :=
  match records[i]? with
  | none => records
  | some r =>
    match use, use.on r with
    | clone, _ => records ++ [r]
    | _, .ok shown => records.set i shown.2
    | _, .error _ => records

end Use

/-- A record and all of its clones, after uses at the given places. -/
def after (r : Record) (uses : List (Nat × Use)) : List Record :=
  uses.foldl (fun records use => use.2.onOne use.1 records) [r]

/-- One use more is one of the records that there are by then. -/
lemma after_concat (r : Record) (uses : List (Nat × Use)) (i : Nat) (use : Use) :
    r.after (uses ++ [(i, use)]) = use.onOne i (r.after uses) := by
  rw [after, List.foldl_append]
  rfl

/-! ## Coherent records -/

/-- A message that is kept is the one that would be rendered anew. -/
def Coherent (r : Record) : Prop :=
  ∀ m, r.cached = some m → Template.checked r.template r.args = .ok m

variable {r r' : Record} {records : List Record} {use : Use} {i j : Nat} {template : String}

/-- A record that keeps no message is coherent. -/
lemma coherent_of_none (h : r.cached = none) : r.Coherent := by simp [Coherent, h]

/-- What is kept depends on the template and the arguments only. -/
lemma Coherent.congr (h : r.Coherent) (htemplate : r'.template = r.template) (hargs : r'.args = r.args)
    (hcached : r'.cached = r.cached) : r'.Coherent := by
  rw [Coherent, htemplate, hargs, hcached]
  exact h

/-- A message that can be written is the one of the template. -/
lemma render_of_checked {m : String} {args : List Argument}
    (h : Template.checked template args = .ok m) : Template.render template args = m := by
  simp only [Template.checked] at h
  split at h
  · cases h
  · exact Except.ok.inj h

/-- **A coherent record is rendered to the message that its template has with its arguments**, whether
it has been rendered before or not, and nothing else of it is changed. -/
lemma Coherent.render_eq (h : r.Coherent) : r.render =
    (Template.checked r.template r.args).map fun m => { r with cached := some m } := by
  cases hcached : r.cached with
  | none =>
    simp only [render, fault?, rendered, message, hcached, Option.isSome_none, Bool.false_eq_true,
      if_false, Option.getD_none, Template.checked, Template.render]
    cases Template.fault? (Template.pieces r.template.toList) r.args <;> rfl
  | some m =>
    rw [h m hcached]
    simp only [render, fault?, rendered, message, hcached, Option.isSome_some, if_true,
      Option.getD_some]
    rfl

/-- The message of a coherent record is the one of its template and arguments, whether it is kept or
not. -/
lemma Coherent.message_eq_render (h : r.Coherent) : r.message = Template.render r.template r.args := by
  rw [message]
  cases hcached : r.cached with
  | none => rfl
  | some m => exact (render_of_checked (h m hcached)).symm

/-- Asking a coherent record for its message shows the one of its template and arguments, or fails
just if that cannot be written. -/
lemma Coherent.map_message_render (h : r.Coherent) :
    r.render.map Record.message = Template.checked r.template r.args := by
  rw [h.render_eq]
  cases Template.checked r.template r.args <;> rfl

/-- Rendering keeps a record coherent. -/
lemma Coherent.render (h : r.Coherent) (hr : r.render = .ok r') :
    r'.template = r.template ∧ r'.args = r.args ∧ r'.isRendered = true ∧ r'.Coherent := by
  rw [h.render_eq] at hr
  cases hchecked : Template.checked r.template r.args with
  | error fault => simp [hchecked, Except.map] at hr
  | ok m =>
    obtain rfl : { r with cached := some m } = r' := by simpa [hchecked, Except.map] using hr
    refine ⟨rfl, rfl, rfl, fun m' hm' => ?_⟩
    obtain rfl : m = m' := Option.some.inj hm'
    exact hchecked

/-! ## What a use does -/

namespace Use

/-- The record after a use of it that does not show the message. -/
def changed (r : Record) : Use → Record
  | withArgs args => r.withArgs args
  | withCause cause => r.withCause cause
  | withSite site => r.withSite site
  | withStack stack => r.withStack stack
  | _ => r

/-- Only other arguments touch the message. -/
lemma coherent_changed (h : r.Coherent) (use : Use) : (use.changed r).Coherent := by
  cases use with
  | withArgs args => exact coherent_of_none rfl
  | _ => exact h.congr rfl rfl rfl

/-- No use gives a record another template. -/
lemma template_changed (r : Record) (use : Use) : (use.changed r).template = r.template := by
  cases use <;> rfl

/-- No record is rendered by a use that does not show the message. -/
lemma isRendered_of_changed (h : (use.changed r).isRendered = true) : r.isRendered = true := by
  cases use with
  | withArgs args => cases h
  | _ => exact h

/-- A use that does not show the message always succeeds, and does not render. -/
lemma on_of_hides (r : Record) (h : use.showsMessage = false) :
    ∃ text, use.on r = .ok (text, use.changed r) := by
  cases use with
  | message | display => cases h
  | layOut layout =>
    have hlayout : layout.showsMessage = false := h
    refine ⟨some (layout.line r), ?_⟩
    simp only [on, Layout.render, hlayout, Bool.false_eq_true, if_false]
    rfl
  | _ => exact ⟨_, rfl⟩

/-- A use that shows the message renders the record first, and shows a text of the rendered
record. -/
lemma on_of_shows (r : Record) (h : use.showsMessage = true) :
    ∃ text : Record → String, use.on r = r.render.map fun r => (some (text r), r) := by
  cases use with
  | message => exact ⟨Record.message, rfl⟩
  | display => exact ⟨Record.display, rfl⟩
  | layOut layout =>
    have hlayout : layout.showsMessage = true := h
    refine ⟨layout.line, ?_⟩
    simp only [on, Layout.render, hlayout, if_true]
    cases r.render <;> rfl
  | _ => cases h

variable (hr : records[i]? = some r)

include hr

/-- A clone comes behind all records, and is the same as the record that was cloned. -/
lemma onOne_clone : clone.onOne i records = records ++ [r] := by
  rw [onOne, hr]

/-- A use that does not show the message changes one record at most. -/
lemma onOne_of_hides (hclone : use ≠ clone) (h : use.showsMessage = false) :
    use.onOne i records = records.set i (use.changed r) := by
  obtain ⟨text, hon⟩ := on_of_hides r h
  rw [onOne, hr]
  cases use with
  | clone => exact absurd rfl hclone
  | _ => simp only [hon]

/-- A use that shows the message renders it, if it can be written. -/
lemma onOne_of_shows (h : use.showsMessage = true) : use.onOne i records =
    match r.render with
    | .ok r' => records.set i r'
    | .error _ => records := by
  obtain ⟨text, hon⟩ := on_of_shows r h
  rw [onOne, hr]
  cases use with
  | message | display | layOut _ =>
    simp only [hon]
    cases r.render <;> rfl
  | _ => cases h

/-- What the use of one record can do to all of them. -/
lemma onOne_cases (use : Use) :
    (use = clone ∧ use.onOne i records = records ++ [r]) ∨
      (use.showsMessage = false ∧ use.onOne i records = records.set i (use.changed r)) ∨
      (use.showsMessage = true ∧ ∃ r', r.render = .ok r' ∧ use.onOne i records = records.set i r') ∨
      use.onOne i records = records := by
  cases hshows : use.showsMessage with
  | false =>
    by_cases hclone : use = clone
    · exact .inl ⟨hclone, hclone ▸ onOne_clone hr⟩
    · exact .inr (.inl ⟨rfl, onOne_of_hides hr hclone hshows⟩)
  | true =>
    have hon := onOne_of_shows hr hshows
    cases hrender : r.render with
    | ok r' => exact .inr (.inr (.inl ⟨rfl, r', rfl, by rw [hon, hrender]⟩))
    | error fault => exact .inr (.inr (.inr (by rw [hon, hrender])))

end Use

/-! ## After any uses -/

/-- A use keeps all records coherent. -/
lemma coherent_onOne (h : ∀ r ∈ records, r.template = template ∧ r.Coherent) (i : Nat) (use : Use) :
    ∀ r ∈ use.onOne i records, r.template = template ∧ r.Coherent := by
  cases hr : records[i]? with
  | none => simpa only [Use.onOne, hr] using h
  | some r =>
    obtain ⟨htemplate, hcoherent⟩ := h r (List.mem_of_getElem? hr)
    intro r' hr'
    rcases Use.onOne_cases hr use with ⟨-, hon⟩ | ⟨-, hon⟩ | ⟨-, shown, hrender, hon⟩ | hon <;>
      rw [hon] at hr'
    · rcases List.mem_append.mp hr' with hr' | hr'
      · exact h r' hr'
      · exact List.mem_singleton.mp hr' ▸ ⟨htemplate, hcoherent⟩
    · rcases List.mem_or_eq_of_mem_set hr' with hr' | rfl
      · exact h r' hr'
      · exact ⟨(Use.template_changed r use).trans htemplate, Use.coherent_changed hcoherent use⟩
    · rcases List.mem_or_eq_of_mem_set hr' with hr' | rfl
      · exact h r' hr'
      · obtain ⟨hsame, -, -, hshown⟩ := hcoherent.render hrender
        exact ⟨hsame.trans htemplate, hshown⟩
    · exact h r' hr'

/-- **A record and its clones stay coherent**, whatever is done with them.  The induction is on the uses,
the last one first. -/
lemma coherent_of_mem_after (hr : r.Coherent) (uses : List (Nat × Use)) :
    ∀ r' ∈ r.after uses, r'.template = r.template ∧ r'.Coherent := by
  induction uses using List.reverseRecOn with
  | nil =>
    intro r' hr'
    obtain rfl := List.mem_singleton.mp hr'
    exact ⟨rfl, hr⟩
  | append_singleton uses use ih =>
    rw [after_concat]
    exact coherent_onOne ih _ _

/-- **No message is rendered unasked.**  A rendered record was rendered before, or its message was just
shown, or it is the clone of a rendered one. -/
lemma rendered_of_onOne (hr : (use.onOne i records)[j]? = some r) (hrendered : r.isRendered = true) :
    (∃ before, records[j]? = some before ∧ before.isRendered = true) ∨
      (j = i ∧ use.showsMessage = true) ∨
      (use = .clone ∧ j = records.length ∧ records[i]? = some r) := by
  cases hi : records[i]? with
  | none =>
    rw [Use.onOne, hi] at hr
    exact .inl ⟨r, hr, hrendered⟩
  | some used =>
    rcases Use.onOne_cases hi use with ⟨hclone, hon⟩ | ⟨-, hon⟩ | ⟨hshows, shown, -, hon⟩ | hon <;>
      rw [hon] at hr
    · rcases Nat.lt_or_ge j records.length with hlt | hge
      · rw [List.getElem?_append_left hlt] at hr
        exact .inl ⟨r, hr, hrendered⟩
      · obtain ⟨hj, rfl⟩ : j = records.length ∧ used = r := by
          rw [List.getElem?_append_right hge, List.getElem?_singleton] at hr
          split at hr
          · exact ⟨by omega, Option.some.inj hr⟩
          · cases hr
        exact .inr (.inr ⟨hclone, hj, rfl⟩)
    · by_cases hj : i = j
      · subst hj
        obtain ⟨hlt, -⟩ := List.getElem?_eq_some_iff.mp hi
        rw [List.getElem?_set_self hlt] at hr
        obtain rfl := Option.some.inj hr
        exact .inl ⟨used, hi, Use.isRendered_of_changed hrendered⟩
      · rw [List.getElem?_set_ne hj] at hr
        exact .inl ⟨r, hr, hrendered⟩
    · by_cases hj : i = j
      · exact .inr (.inl ⟨hj.symm, hshows⟩)
      · rw [List.getElem?_set_ne hj] at hr
        exact .inl ⟨r, hr, hrendered⟩
    · exact .inl ⟨r, hr, hrendered⟩

/-- Showing the message of a coherent record. -/
lemma onOne_of_checked (hr : records[i]? = some r) (hcoherent : r.Coherent)
    (h : use.showsMessage = true) {m : String} (hm : Template.checked r.template r.args = .ok m) :
    use.onOne i records = records.set i { r with cached := some m } := by
  rw [Use.onOne_of_shows hr h, hcoherent.render_eq, hm]
  rfl

/-- **Messages are rendered late, and for the arguments of the day.**  However a record and its clones
were used, the message of each is that of the template with the arguments that it has now.  Other
arguments leave it unrendered, a clone is as it is, and showing a message that can be written leaves the
record rendered; no record gets rendered in another way.  A stream sink does not render a record of a
level that it does not take.

**Proof sketch.** Each use keeps the records coherent: a message is forgotten with its arguments, and is
kept only when it was just rendered or was kept before. -/
theorem messages_coherent (level : Level) (template : String) (time : Instant) (thread : String)
    (uses : List (Nat × Use)) :
    let records uses := (make level template time thread).after uses
    (∀ r ∈ records uses, r.template = template ∧
      r.message = Template.render template r.args ∧
      r.render.map message = Template.checked template r.args) ∧
    (∀ (i : Nat) (r : Record), (records uses)[i]? = some r →
      (∀ args, ∃ r', records (uses ++ [(i, .withArgs args)]) = (records uses).set i r' ∧
        r'.args = args ∧ r'.isRendered = false) ∧
      records (uses ++ [(i, .clone)]) = records uses ++ [r] ∧
      (∀ use m, Use.showsMessage use = true → Template.checked template r.args = .ok m →
        ∃ r', records (uses ++ [(i, use)]) = (records uses).set i r' ∧
          r'.args = r.args ∧ r'.isRendered = true ∧ r'.message = m)) ∧
    (∀ (i j : Nat) (use : Use) (r : Record), (records (uses ++ [(i, use)]))[j]? = some r →
      r.isRendered = true →
      (∃ before, (records uses)[j]? = some before ∧ before.isRendered = true) ∨
        (j = i ∧ use.showsMessage = true) ∨
        (use = .clone ∧ j = (records uses).length ∧ (records uses)[i]? = some r)) ∧
    (∀ (s : System) (calls : Reentry) (e : EngineId) (x : Engine) (sink : StreamSink) (id : RecordId)
        (r : Record),
      s.engines[e]? = some x → x.sink = .stream sink → s.records[id]? = some r →
      sink.filter.contains r.level = false →
        sink.line? r = .ok none ∧ (System.runRecord calls e id).on s = (.ok none, s)) := by
  intro records
  have hcoherent : ∀ r ∈ records uses, r.template = template ∧ r.Coherent :=
    coherent_of_mem_after (coherent_of_none rfl) uses
  have hconcat : ∀ i use, records (uses ++ [(i, use)]) = Use.onOne i use (records uses) :=
    after_concat _ uses
  refine ⟨fun r hr => ?_, fun i r hr => ⟨fun args => ?_, ?_, fun use m hshows hm => ?_⟩,
    fun i j use r hr hrendered => ?_, fun s calls e x sink id r hx hsink hrec hlevel => ?_⟩
  · obtain ⟨rfl, h⟩ := hcoherent r hr
    exact ⟨rfl, h.message_eq_render, h.map_message_render⟩
  · refine ⟨r.withArgs args, ?_, rfl, rfl⟩
    rw [hconcat]
    exact Use.onOne_of_hides hr (fun h => by cases h) rfl
  · rw [hconcat, Use.onOne_clone hr]
  · obtain ⟨rfl, h⟩ := hcoherent r (List.mem_of_getElem? hr)
    refine ⟨{ r with cached := some m }, ?_, rfl, rfl, rfl⟩
    rw [hconcat, onOne_of_checked hr h hshows hm]
  · rw [hconcat] at hr
    exact rendered_of_onOne hr hrendered
  · have hline : sink.line? r = .ok none := by
      rw [StreamSink.line?, hlevel, if_neg Bool.false_ne_true]
    exact ⟨hline, by rw [System.on_runRecord_of_stream calls hx hsink hrec, hline]⟩

/-- A record that says how far something has come, with its argument. -/
def progress : Record := (make .info "n=%d" ⟨2024, 1, 1, 0, 0, 0, 0⟩ "main").withArgs [.int 1]

/-- A sink that takes warnings and what is worse. -/
def warnings : StreamSink := .make .stdout .default (.startingAt .warn)

/-- A system with an engine around that sink, which is shown that record. -/
def besides : System where
  engines := [.make (.stream warnings) 3]
  records := #[progress]
  machinery := "logroute"
  callStack := []
  clock := ⟨2024, 1, 1, 0, 0, 0, 0⟩

/-- A clone that gets other arguments after the record was rendered has the message for these.  The engine
whose sink takes warnings has no object for the record that says how far something has come: it does
not render it, and changes nothing in the system. -/
theorem messages_coherent_of_unwanted :
    (∀ r ∈ (make .info "n=%d" ⟨2024, 1, 1, 0, 0, 0, 0⟩ "main").after
        [(0, .withArgs [.int 1]), (0, .message), (0, .clone), (1, .withArgs [.int 2])],
      r.message = Template.render "n=%d" r.args) ∧
    besides.engines[0]? = some (.make (.stream warnings) 3) ∧
    besides.records[0]? = some progress ∧ warnings.filter.contains progress.level = false ∧
    progress.isRendered = false ∧ progress.message = "n=1" ∧
    warnings.line? progress = .ok none ∧
    (System.runRecord (.upTo 2) 0 0).on besides = (.ok none, besides) := by
  obtain ⟨hmessages, -, -, hsink⟩ := messages_coherent .info "n=%d" ⟨2024, 1, 1, 0, 0, 0, 0⟩ "main"
    [(0, .withArgs [.int 1]), (0, .message), (0, .clone), (1, .withArgs [.int 2])]
  have hlevel : warnings.filter.contains progress.level = false := by decide
  obtain ⟨hline, hrun⟩ := hsink besides (.upTo 2) 0 (.make (.stream warnings) 3) warnings 0 progress
    rfl rfl rfl hlevel
  exact ⟨fun r hr => (hmessages r hr).2.1, rfl, rfl, hlevel, rfl, by decide +kernel, hline, hrun⟩

/-- A clone that gets other arguments after the record was rendered has a message of its own. -/
example : ((make .info "n=%d" ⟨2024, 1, 1, 0, 0, 0, 0⟩ "main").after
    [(0, .withArgs [.int 1]), (0, .message), (0, .clone), (1, .withArgs [.int 2]),
      (1, .withCause none), (1, .display)]).map message = ["n=1", "n=2"] := by
  decide +kernel

end Record

end NamespaceLogging
