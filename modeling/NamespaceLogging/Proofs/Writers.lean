import Mathlib.Tactic.Common
import NamespaceLogging.Sink.Stream

/-!
# What writers leave behind

Text waits in the buffer of a writer before it comes to a file, and a long text may pass the buffer by.
Nothing is lost or comes out of order by that: what an outlet holds, followed by what waits, is all
that was taken.

## Main definitions

* `Media.content`: what an outlet holds.
* `Outlet.Keeps`: an outlet that holds all that is written to it.
* `Writer.Takes`: a writer has taken a text.

## Main results

* `Writer.takes_writeAll`: a writer takes texts in order.
* `StreamSink.process_of_keeps`: after a batch, the outlet holds its lines, and nothing waits.
-/

set_option autoImplicit false

namespace NamespaceLogging

/-! ## Outlets -/

/-- What an outlet holds. -/
def Media.content (m : Media) : Outlet → String
  | .stdout | .device .stdout => m.stdout
  | .stderr | .device .stderr => m.stderr
  | .file place => (m.text? place).getD ""
  | .device .null | .device .full => ""

/-- An outlet that holds all that is written to it.  The root of the tree is no file. -/
def Outlet.Keeps : Outlet → Prop
  | .file place => place ≠ []
  | .device .null | .device .full => False
  | .stdout | .stderr | .device .stdout | .device .stderr => True

namespace Media

variable {m m' : Media} {outlet : Outlet}

/-- The text that was set at a place is found there. -/
lemma text?_setText {place : Location} (h : place ≠ []) (text : String) :
    (m.setText place text).text? place = some text := by
  cases place with
  | nil => contradiction
  | cons name above => simp [text?, setText, FileTree.text?, FileTree.setText, FileTree.node?]

/-- Writing puts the text behind what the outlet holds. -/
lemma append_of_keeps (h : outlet.Keeps) (text : String) (m : Media) :
    ∃ m', m.append outlet text = (.ok (), m') ∧ m'.content outlet = m.content outlet ++ text := by
  cases outlet with
  | stdout => exact ⟨_, rfl, rfl⟩
  | stderr => exact ⟨_, rfl, rfl⟩
  | file place =>
    refine ⟨_, rfl, ?_⟩
    simp only [content, text?_setText h, Option.getD_some]
  | device device =>
    cases device with
    | null | full => exact h.elim
    | stdout | stderr => exact ⟨_, rfl, rfl⟩

/-- The root of the tree is a directory, and no directory can be written to. -/
lemma ne_nil_of_findForWriting {tree : FileTree} {path : FilePath} {place : Location}
    (h : tree.findForWriting path = .ok place) : place ≠ [] := by
  have hroot : tree.node? [] = some .directory := rfl
  simp only [FileTree.findForWriting, bind, Except.bind] at h
  -- a case for each way to fail, one where something stands at the place, and one where nothing does
  repeat' split at h
  all_goals cases h
  all_goals
    rintro rfl
    simp_all

/-- A path leads to an outlet that keeps what is written there, or to one of two devices. -/
lemma keeps_of_openEnd {path : String} (h : m.openEnd path = (.ok outlet, m'))
    (hnull : outlet ≠ .device .null) (hfull : outlet ≠ .device .full) : outlet.Keeps := by
  have houtlet : m.outletOf path = .ok (outlet, m') := by
    rw [openEnd] at h
    split at h
    · simp at h
    · rename_i heq
      obtain ⟨⟨⟩, rfl⟩ := Prod.mk.inj h
      exact heq
  cases hpath : pathOf path with
  | error e => simp [outletOf, hpath, bind, Except.bind] at houtlet
  | ok parsed =>
    cases hplace : m.tree.findForWriting parsed with
    | error fault => simp [outletOf, hpath, hplace, bind, Except.bind, Except.mapError] at houtlet
    | ok place =>
      have hne := ne_nil_of_findForWriting hplace
      simp only [outletOf, hpath, hplace, bind, Except.bind, Except.mapError] at houtlet
      split at houtlet
      · rename_i device _
        cases houtlet
        cases device with
        | null => exact absurd rfl hnull
        | full => exact absurd rfl hfull
        | stdout | stderr => trivial
      · cases houtlet
        exact hne
      · cases houtlet
        exact hne

end Media

/-! ## Writers -/

namespace Writer

variable {w w' w'' : Writer} {m m' m'' : Media} {text text' : String}

/-- A writer whose outlet keeps what is written there; text waits only where it may. -/
structure Sound (w : Writer) : Prop where
  keeps : w.outlet.Keeps
  direct : w.isBuffered = false → w.buffer = ""

/-- A new writer has nothing waiting, and so is sound. -/
lemma sound_make {outlet : Outlet} (h : outlet.Keeps) : (Writer.make outlet).Sound :=
  ⟨h, fun _ => rfl⟩

/-- A writer has taken a text: it has come behind what the outlet held and what waited before. -/
structure Takes (w : Writer) (m : Media) (text : String) (w' : Writer) (m' : Media) : Prop where
  outlet : w'.outlet = w.outlet
  sound : w'.Sound
  content : m'.content w.outlet ++ w'.buffer = m.content w.outlet ++ w.buffer ++ text

/-- A sound writer takes the empty text without doing anything. -/
lemma Takes.refl (h : w.Sound) : w.Takes m "" w m := ⟨rfl, h, by simp⟩

/-- A writer that takes one text and then another takes both together. -/
lemma Takes.trans (h : w.Takes m text w' m') (h' : w'.Takes m' text' w'' m'') :
    w.Takes m (text ++ text') w'' m'' where
  outlet := h'.outlet.trans h.outlet
  sound := h'.sound
  content := by
    have hcontent := h'.content
    rw [h.outlet] at hcontent
    rw [hcontent, h.content, String.append_assoc]

/-- After a flush, nothing waits. -/
lemma flush_of_sound (h : w.Sound) (m : Media) : ∃ m', w.flush m = (.ok (), .make w.outlet, m') ∧
    w.Takes m "" (.make w.outlet) m' := by
  rw [flush]
  by_cases hempty : w.buffer.isEmpty = true
  · have hw : w = .make w.outlet := by
      rw [String.isEmpty_iff] at hempty
      rw [make, ← hempty]
    rw [if_pos hempty]
    exact ⟨m, by rw [← hw], by rw [← hw]; exact .refl h⟩
  · obtain ⟨m', happend, hcontent⟩ := Media.append_of_keeps h.keeps w.buffer m
    rw [if_neg hempty, happend]
    exact ⟨m', rfl, rfl, sound_make h.keeps, by simpa [make] using hcontent⟩

/-- A text passes the buffer by when nothing waits. -/
lemma append_of_empty (h : w.Sound) (hempty : w.buffer = "") (text : String) (m : Media) :
    ∃ m', m.append w.outlet text = (.ok (), m') ∧ w.Takes m text w m' := by
  obtain ⟨m', happend, hcontent⟩ := Media.append_of_keeps h.keeps text m
  exact ⟨m', happend, rfl, h, by simpa [hempty] using hcontent⟩

/-- A text joins those that wait. -/
lemma takes_wait (h : w.Sound) (hbuffered : w.isBuffered = true) (text : String) (m : Media) :
    w.Takes m text { w with buffer := w.buffer ++ text } m where
  outlet := rfl
  sound := ⟨h.keeps, fun hdirect => Bool.noConfusion (hbuffered.symm.trans hdirect)⟩
  content := (String.append_assoc ..).symm

/-- A text that is too long to wait finds nothing that waits: either it did not fit in, and there was
a flush, or the whole buffer was free. -/
lemma takes_writeLarge (h : w.Sound) (hbuffered : w.isBuffered = true) (text : String) (m : Media) :
    ∃ w' m', w.writeLarge text m = (.ok (), w', m') ∧ w.Takes m text w' m' := by
  have hplace : ∀ v m₁, Sound v → v.isBuffered = true →
      (capacity ≤ text.utf8ByteSize → v.buffer = "") →
      ∃ w' m', (if capacity ≤ text.utf8ByteSize then
          ((m₁.append v.outlet text).1, v, (m₁.append v.outlet text).2)
        else (.ok (), { v with buffer := v.buffer ++ text }, m₁)) = (.ok (), w', m') ∧
        v.Takes m₁ text w' m' := by
    intro v m₁ hv hbuffered' hfree
    split
    · rename_i hlong
      obtain ⟨m', happend, htakes⟩ := append_of_empty hv (hfree hlong) text m₁
      exact ⟨v, m', by rw [happend], htakes⟩
    · exact ⟨_, _, rfl, takes_wait hv hbuffered' text m₁⟩
  rw [writeLarge]
  by_cases hroom : capacity - w.buffer.utf8ByteSize < text.utf8ByteSize
  · obtain ⟨m₁, hflush, htakes⟩ := flush_of_sound h m
    obtain ⟨w', m', hon, htakes'⟩ := hplace (.make w.outlet) m₁ (sound_make h.keeps) hbuffered
      fun _ => rfl
    refine ⟨w', m', ?_, by simpa using htakes.trans htakes'⟩
    simp only [if_pos hroom, hflush]
    exact hon
  · obtain ⟨w', m', hon, htakes⟩ := hplace w m h hbuffered fun hlong => by
      have hcapacity : 0 < capacity := by decide
      exact String.utf8ByteSize_eq_zero_iff.mp (by omega)
    refine ⟨w', m', ?_, htakes⟩
    simp only [if_neg hroom]
    exact hon

/-- A sound writer takes every text, whether there is room in its buffer or not. -/
lemma takes_write (h : w.Sound) (text : String) (m : Media) :
    ∃ w' m', w.write text m = (.ok (), w', m') ∧ w.Takes m text w' m' := by
  rw [write]
  cases hbuffered : w.isBuffered with
  | false =>
    obtain ⟨m', happend, htakes⟩ := append_of_empty h (h.direct hbuffered) text m
    refine ⟨w, m', ?_, htakes⟩
    simp only [Bool.not_false, if_true, happend]
  | true =>
    simp only [Bool.not_true, Bool.false_eq_true, if_false]
    split
    · exact ⟨_, m, rfl, takes_wait h hbuffered text m⟩
    · exact takes_writeLarge h hbuffered text m

/-- **A writer takes texts in order.** -/
lemma takes_writeAll (texts : List String) (h : w.Sound) (m : Media) :
    ∃ w' m', writeAll texts w m = (.ok (), w', m') ∧ w.Takes m (String.join texts) w' m' := by
  induction texts generalizing w m with
  | nil => exact ⟨w, m, rfl, .refl h⟩
  | cons text texts ih =>
    obtain ⟨w₁, m₁, hwrite, htakes⟩ := takes_write h text m
    obtain ⟨w', m', hrest, htakes'⟩ := ih htakes.sound m₁
    refine ⟨w', m', ?_, by simpa using htakes.trans htakes'⟩
    rw [writeAll, hwrite]
    exact hrest

end Writer

/-! ## The sink -/

namespace StreamSink

variable {sink : StreamSink} {outlet : Outlet}

/-- **After a batch, the outlet holds its lines**, and nothing waits.

**Proof sketch.** The texts of the batch are taken one after the other, and the flush at the end brings
to the outlet what still waits. -/
lemma process_of_keeps (hwriter : sink.writer = some (.make outlet)) (h : outlet.Keeps)
    (batch : List String) (m : Media) : ∃ m', sink.process batch m = (.ok (), sink, m') ∧
      m'.content outlet = m.content outlet ++ String.join (texts batch) := by
  obtain ⟨w, m₁, hwrite, htakes⟩ :=
    Writer.takes_writeAll (texts batch) (Writer.sound_make h) m
  obtain ⟨m', hflush, hflushed⟩ := Writer.flush_of_sound htakes.sound m₁
  have houtlet : w.outlet = outlet := htakes.outlet
  rw [houtlet] at hflush
  refine ⟨m', ?_, ?_⟩
  · rw [process, hwriter]
    simp only [hwrite, hflush]
    rw [← hwriter]
    rfl
  · simpa [Writer.make] using (htakes.trans hflushed).content

/-- Nothing waits between batches, so nothing is written when the target is closed. -/
lemma stop_of_make (hwriter : sink.writer = some (.make outlet)) (m : Media) :
    sink.stop m = ({ sink with writer := none }, m) := by
  rw [stop, hwriter]
  rfl

/-- A sink that was started has opened its target. -/
lemma start_of_opened {m m' : Media} (hopens : sink.openTarget m = (.ok outlet, m')) :
    sink.start m = (.ok (), { sink with writer := some (.make outlet) }, m') := by
  rw [start, hopens]

/-- The target of a sink that was opened keeps what is written there, or is one of two devices. -/
lemma keeps_of_openTarget {m m' : Media} (hopens : sink.openTarget m = (.ok outlet, m'))
    (hnull : outlet ≠ .device .null) (hfull : outlet ≠ .device .full) : outlet.Keeps := by
  rw [openTarget] at hopens
  split at hopens
  · obtain ⟨⟨⟩, -⟩ := Prod.mk.inj hopens
    trivial
  · obtain ⟨⟨⟩, -⟩ := Prod.mk.inj hopens
    trivial
  · exact Media.keeps_of_openEnd hopens hnull hfull

end StreamSink

end NamespaceLogging
