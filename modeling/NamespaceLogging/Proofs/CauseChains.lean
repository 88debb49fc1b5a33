import Mathlib.Data.List.Forall2
import NamespaceLogging.Record.Cause

/-!
# Chains of causes

A cause is a chain of errors.  Putting a cause behind another one puts the second chain behind the
first, and a chain is written as the sections of its errors, one after the other.  The cap on frames
is a matter of each section: however long the chain is, every error has its header and its own first
frames, and the number of frames that are left out is written where there are any.

## Main definitions

* `CauseLink.header`, `Cause.frameLine`, `Cause.moreLine`: the lines of which sections are made.
* `CauseLink.Section`: the lines of one error under a cap.

## Main results

* `Cause.chain_causedBy`, `Cause.chain_injective`: causes are put together as their chains are.
* `CauseLink.exists_section`: an error is written as its section.
* `Cause.render_chained`: the laws of chains and of their texts.
-/

set_option autoImplicit false

namespace NamespaceLogging

/-! ## Sections -/

namespace Cause

/-- The line for a frame. -/
def frameLine (f : Frame) : String := "\n\tat " ++ f.display

/-- The line for some frames that are left out. -/
def moreLine (count : Nat) : String := "\n\t... " ++ toString count ++ " more"

end Cause

namespace CauseLink

open Cause

/-- The line that an error begins with. -/
def header (link : CauseLink) : String := "\nCaused by: " ++ link.display

/-- The lines of one error: its header and then a line for each frame, or a line for each of the first
frames, of which there are as many as the cap says, and one with the number of the others. -/
inductive Section (cap : Nat) (link : CauseLink) : List String → Prop
  | whole (hframes : link.frames.length ≤ cap) :
      Section cap link (link.header :: link.frames.map frameLine)
  | capped (shown hidden : List Frame) (hframes : link.frames = shown ++ hidden)
      (hshown : shown.length = cap) (hhidden : hidden ≠ []) :
      Section cap link (link.header :: (shown.map frameLine ++ [moreLine hidden.length]))

/-- **An error is written as its section.** -/
lemma exists_section (cap : Nat) (link : CauseLink) :
    ∃ lines, link.Section cap lines ∧ link.render cap = String.join lines := by
  by_cases hcap : cap < link.frames.length
  · refine ⟨_, .capped (link.frames.take cap) (link.frames.drop cap) ?_ ?_ ?_, ?_⟩
    · rw [List.take_append_drop]
    · exact List.length_take_of_le (Nat.le_of_lt hcap)
    · rwa [Ne, List.drop_eq_nil_iff, Nat.not_le]
    · rw [render, if_pos hcap, String.append_assoc, String.join_cons, String.join_append,
        String.join_cons, String.join_nil, String.append_empty, List.length_drop]
      rfl
  · refine ⟨_, .whole (Nat.le_of_not_lt hcap), ?_⟩
    rw [render, if_neg hcap, List.take_of_length_le (Nat.le_of_not_lt hcap), String.append_empty,
      String.join_cons]
    rfl

variable {cap : Nat} {link : CauseLink} {lines : List String}

/-- As many frames are listed as the cap allows, and a line with a number follows if that is not all. -/
lemma Section.length (h : link.Section cap lines) :
    lines.length =
      1 + min cap link.frames.length + if cap < link.frames.length then 1 else 0 := by
  cases h with
  | whole hframes =>
    rw [Nat.min_eq_right hframes, if_neg (Nat.not_lt.mpr hframes), List.length_cons, List.length_map]
    omega
  | capped shown hidden hframes hshown hhidden =>
    have hpos := List.length_pos_iff.mpr hhidden
    have hlength : link.frames.length = cap + hidden.length := by
      rw [hframes, List.length_append, hshown]
    have hless : cap < link.frames.length := by omega
    rw [if_pos hless, Nat.min_eq_left (Nat.le_of_lt hless)]
    simp only [List.length_cons, List.length_append, List.length_map, List.length_nil, hshown]
    omega

end CauseLink

/-! ## Chains -/

namespace Cause

/-- The chain of a cause with another one behind it is both chains. -/
lemma chain_causedBy (c source : Cause) : (c.causedBy source).chain = c.chain ++ source.chain := by
  induction c with
  | root link => rfl
  | dueTo link rest ih => rw [causedBy, chain, chain, ih, List.cons_append]

/-- Every chain has at least the cause with which it begins. -/
lemma chain_ne_nil (c : Cause) : c.chain ≠ [] := by
  cases c <;> exact List.cons_ne_nil _ _

/-- A cause is known by its chain. -/
lemma chain_injective : Function.Injective chain := by
  intro c
  induction c with
  | root link =>
    intro d h
    cases d with
    | root link' => rw [List.singleton_injective h]
    | dueTo link' source =>
      rw [chain, chain, List.cons.injEq] at h
      exact absurd h.2.symm source.chain_ne_nil
  | dueTo link source ih =>
    intro d h
    cases d with
    | root link' =>
      rw [chain, chain, List.cons.injEq] at h
      exact absurd h.2 source.chain_ne_nil
    | dueTo link' source' =>
      rw [chain, chain, List.cons.injEq] at h
      rw [h.1, ih h.2]

/-- It makes no difference in which order causes are put behind one another. -/
lemma causedBy_assoc (a b c : Cause) : (a.causedBy b).causedBy c = a.causedBy (b.causedBy c) := by
  apply chain_injective
  simp only [chain_causedBy, List.append_assoc]

/-- A chain is written as the sections of its errors. -/
lemma exists_sections (cap : Nat) (c : Cause) : ∃ sections : List (List String),
    List.Forall₂ (CauseLink.Section cap) c.chain sections ∧
      c.render cap = String.join sections.flatten := by
  rw [render]
  induction c.chain with
  | nil => exact ⟨[], .nil, rfl⟩
  | cons link links ih =>
    obtain ⟨lines, hsection, hlines⟩ := link.exists_section cap
    obtain ⟨sections, hsections, htext⟩ := ih
    refine ⟨lines :: sections, .cons hsection hsections, ?_⟩
    rw [List.map_cons, String.join_cons, List.flatten_cons, String.join_append, hlines, htext]

/-- **Causes are put together as their chains are, and so are their texts.**  The chain of a cause with
another one behind it is both chains, with all errors as they were, and it does not matter in which
order causes are put together.  Under every cap the text of the whole is both texts.  The text of a
cause is made of one section for each error of its chain: the header, the frames up to the cap, and, if
there are more, one line with the number of the others.

**Proof sketch.**  Causes are compared by their chains, where putting together is appending; the text of
a cause is a function of its chain that goes through it error by error. -/
theorem render_chained (a b c : Cause) (cap : Nat) :
    (a.causedBy b).chain = a.chain ++ b.chain ∧
      (a.causedBy b).causedBy c = a.causedBy (b.causedBy c) ∧
      (a.causedBy b).render cap = a.render cap ++ b.render cap ∧
      (∃ sections : List (List String), List.Forall₂ (CauseLink.Section cap) a.chain sections ∧
        a.render cap = String.join sections.flatten) ∧
      ∀ link, ∃ lines, link.Section cap lines ∧ (root link).render cap = String.join lines ∧
        lines.length =
          1 + min cap link.frames.length + if cap < link.frames.length then 1 else 0 := by
  refine ⟨chain_causedBy a b, causedBy_assoc a b c, ?_, exists_sections cap a, fun link => ?_⟩
  · rw [render, chain_causedBy, List.map_append, String.join_append]
    rfl
  · obtain ⟨lines, hsection, hlines⟩ := link.exists_section cap
    refine ⟨lines, hsection, ?_, hsection.length⟩
    rw [render, chain, List.map_singleton, String.join_cons, String.join_nil, String.append_empty,
      hlines]

/-- The cap holds for each error alone: of three frames one is left out of the first section, and the
second one is whole. -/
example : (((ofMessage "top").withFrames
      [⟨"a", none, none⟩, ⟨"b", none, none⟩, ⟨"c", none, none⟩]).causedBy
        ((ofMessage "root").withFrames [⟨"d", none, none⟩])).render 2 =
    "\nCaused by: top\n\tat a\n\tat b\n\t... 1 more\nCaused by: root\n\tat d" := by
  decide +kernel

end Cause

end NamespaceLogging
