import NamespaceLogging.Proofs.Acceptance

/-!
# Lists of overrides

Overrides are given as one text with commas, or as the entries of a configuration.  In both cases each
entry is read by itself, and there may be white space around it and around both of its sides, `::` at the
end of the namespace, and any letter case in the level.  Of a text with commas blank entries are passed
over.  Overrides that are written in such a way are read back, in order.

## Main definitions

* `Override.Writable`: what overrides are that can be written.
* `Level.Spells`, `Override.Written`: the texts for a level and for an override.
* `Override.Listed`: the entries for a list of overrides, with blank ones between them.
* `Override.joined`, `Override.print`: entries with commas between them, and how they are printed.

## Main results

* `Override.parse_of_written`: an override is read back from its text.
* `Override.parseList_joined`, `Override.parseList_print`: overrides are read back from a text with
  commas, and so reading undoes printing.
* `Override.parseList_eq_error_iff`: the first entry that cannot be read decides the error.
* `Override.parseList_of_listed`: overrides are read back from lists of both kinds.
-/

set_option autoImplicit false

namespace NamespaceLogging

open Text

/-- The text spells the level: its name in any letter case, with white space around it. -/
def Level.Spells (text : List Char) (level : Level) : Prop :=
  ∃ before name after : List Char, Blank before ∧ Blank after ∧
    asciiLower name = asciiLower level.name.toList ∧ text = before ++ name ++ after

namespace Override

/-- The override can be written: its namespace is not empty, has no white space around it, neither `=`
nor a comma in it, and no `::` at its end. -/
structure Writable (o : Override) : Prop where
  ne_nil : o.namespaceName.toList ≠ []
  trimmed : trim o.namespaceName.toList = o.namespaceName.toList
  no_equals : '=' ∉ o.namespaceName.toList
  no_comma : ',' ∉ o.namespaceName.toList
  no_pair : ¬ [':', ':'] <:+ o.namespaceName.toList

/-- The entry is a text for the override. -/
def Written (o : Override) (entry : List Char) : Prop :=
  ∃ ns level, Namespace.Spells ns o.namespaceName.toList ∧ Level.Spells level o.level ∧
    entry = ns ++ '=' :: level

/-- The entries are texts for the overrides in order, with blank ones anywhere between them. -/
inductive Listed : List (List Char) → List Override → Prop
  | nil : Listed [] []
  | blank {entry : List Char} {entries : List (List Char)} {os : List Override}
      (hblank : Blank entry) (more : Listed entries os) : Listed (entry :: entries) os
  | entry {entry : List Char} {entries : List (List Char)} {o : Override} {os : List Override}
      (hwritten : o.Written entry) (more : Listed entries os) : Listed (entry :: entries) (o :: os)

/-- The text that an override is printed as. -/
def print (o : Override) : List Char := o.namespaceName.toList ++ '=' :: o.level.name.toList

/-- The piece of a text is not blank, and cannot be read. -/
def Unreadable (piece : List Char) (e : ConfigError) : Prop :=
  ¬ Blank piece ∧ parse (String.ofList (trim piece)) = .error e

/-- Entries with commas between them. -/
def joined (entries : List (List Char)) : String := String.ofList ([','].intercalate entries)

end Override

/-! ## Levels -/

namespace Level

variable {text name : List Char} {level : Level}

/-- The character lies between the first capital and the last small letter. -/
def InAlphabet (c : Char) : Prop := 'A'.toNat ≤ c.toNat ∧ c.toNat ≤ 'z'.toNat

instance (c : Char) : Decidable (InAlphabet c) :=
  inferInstanceAs (Decidable ('A'.toNat ≤ c.toNat ∧ c.toNat ≤ 'z'.toNat))

/-- A character with which namespaces are written is no white space. -/
lemma InAlphabet.not_blank {c : Char} (h : InAlphabet c) : isBlank c = false :=
  isBlank_of_visible (Nat.le_trans (by decide) h.1) (Nat.le_trans h.2 (by decide))

/-- Whatever letter case a name is given in, it is made of letters. -/
lemma inAlphabet_of_mem (hname : asciiLower name = asciiLower level.name.toList) {c : Char}
    (hc : c ∈ name) : InAlphabet c := by
  have hall : (asciiLower level.name.toList).all (fun d => decide (InAlphabet d)) = true := by
    cases level <;> decide
  have hlower : InAlphabet c.toLower := by
    apply of_decide_eq_true
    apply List.all_eq_true.mp hall
    rw [← hname]
    exact List.mem_map_of_mem hc
  by_cases hupper : c.val ≥ 'A'.val ∧ c.val ≤ 'Z'.val
  · have hbelow : c.toNat ≤ 'Z'.toNat := UInt32.le_iff_toNat_le.mp hupper.2
    exact ⟨UInt32.le_iff_toNat_le.mp hupper.1, Nat.le_trans hbelow (by decide)⟩
  · have hsame : c.toLower = c := dif_neg hupper
    rwa [hsame] at hlower

/-- A name begins and ends with a letter. -/
lemma exists_ends (hname : asciiLower name = asciiLower level.name.toList) :
    (∃ c rest, name = c :: rest ∧ isBlank c = false) ∧
      ∃ init d, name = init ++ [d] ∧ isBlank d = false := by
  have hne : name ≠ [] := by
    rintro rfl
    cases level <;> simp [asciiLower, Level.name] at hname
  have hsolid : ∀ c ∈ name, isBlank c = false := by
    intro c hc
    exact (inAlphabet_of_mem hname hc).not_blank
  constructor
  · exact ⟨_, _, (List.cons_head_tail hne).symm, hsolid _ (List.head_mem hne)⟩
  · exact ⟨_, _, (List.dropLast_append_getLast hne).symm, hsolid _ (List.getLast_mem hne)⟩

/-- **A level is read back** from each text for it. -/
lemma parse_of_spells (h : Spells text level) : parse (String.ofList text) = .ok level := by
  obtain ⟨before, name, after, hbefore, hafter, hname, rfl⟩ := h
  obtain ⟨⟨c, rest, hfirst, hc⟩, ⟨init, d, hlast, hd⟩⟩ := exists_ends hname
  have htrim : trim (before ++ name ++ after) = name :=
    trim_of_blanks hbefore hafter hfirst hc hlast hd
  have hlevel : ofText? (String.ofList (before ++ name ++ after)) = some level := by
    rw [ofText?, String.toList_ofList, htrim, hname]
    cases level <;> rfl
  rw [parse, hlevel]

/-- There are only letters and white space in the text for a level. -/
lemma Spells.notMem (h : Spells text level) {sep : Char} (hblank : isBlank sep = false)
    (hletter : ¬ InAlphabet sep) : sep ∉ text := by
  obtain ⟨before, name, after, hbefore, hafter, hname, rfl⟩ := h
  simp only [List.mem_append, not_or]
  refine ⟨⟨fun hmem => ?_, fun hmem => ?_⟩, fun hmem => ?_⟩
  · simp [hbefore sep hmem] at hblank
  · exact hletter (inAlphabet_of_mem hname hmem)
  · simp [hafter sep hmem] at hblank

end Level

/-- There are only separators and white space beside the namespace that a text spells. -/
lemma Namespace.Spells.notMem {text ns : List Char} (h : Namespace.Spells text ns) {sep : Char}
    (hblank : isBlank sep = false) (hcolon : sep ≠ ':') (hns : sep ∉ ns) : sep ∉ text := by
  obtain ⟨before, after, n, hbefore, hafter, rfl⟩ := h
  simp only [List.mem_append, not_or]
  refine ⟨⟨fun hmem => ?_, hns, fun hmem => ?_⟩, fun hmem => ?_⟩
  · simp [hbefore sep hmem] at hblank
  · obtain ⟨pair, hpair, hmem⟩ := List.mem_flatten.mp hmem
    rw [List.eq_of_mem_replicate hpair] at hmem
    simp [hcolon] at hmem
  · simp [hafter sep hmem] at hblank

/-! ## Entries -/

namespace Override

variable {o : Override} {os : List Override} {entry : List Char} {entries pieces : List (List Char)}

/-- The namespace of an override that can be written has no white space at its ends. -/
lemma Writable.exists_ends (ho : o.Writable) :
    (∃ c rest, o.namespaceName.toList = c :: rest ∧ isBlank c = false) ∧
      ∃ init d, o.namespaceName.toList = init ++ [d] ∧ isBlank d = false := by
  have hne : trim o.namespaceName.toList ≠ [] := by
    rw [ho.trimmed]
    exact ho.ne_nil
  have hfirst := (trim_first _).resolve_left hne
  have hlast := trim_last hne
  rw [ho.trimmed] at hfirst hlast
  exact ⟨hfirst, hlast⟩

/-- A text that spells the namespace of a writable override is normalized to it. -/
lemma normalize_of_writable (ho : o.Writable) {ns : List Char}
    (hns : Namespace.Spells ns o.namespaceName.toList) :
    Namespace.normalize ns = o.namespaceName.toList := by
  obtain ⟨⟨c, rest, hfirst, hc⟩, ⟨init, d, hlast, hd⟩⟩ := ho.exists_ends
  have hpair : ∀ before, o.namespaceName.toList ≠ before ++ [':', ':'] := by
    intro before heq
    exact ho.no_pair ⟨before, heq.symm⟩
  exact Namespace.normalize_of_ends hfirst hc hlast hd hpair hns

/-- **An override is read back** from each text for it. -/
lemma parse_of_written (ho : o.Writable) (h : o.Written entry) :
    parse (String.ofList entry) = .ok o := by
  obtain ⟨ns, level, hns, hlevel, rfl⟩ := h
  have hsplit : splitFirst? ['='] (ns ++ '=' :: level) = some (ns, level) :=
    splitFirst?_of_notMem (hns.notMem (by decide) (by decide) ho.no_equals)
  have hsome : o.namespaceName.toList.isEmpty = false := by
    rw [List.isEmpty_eq_false_iff]
    exact ho.ne_nil
  have hsingle : level.contains '=' = false := by
    rw [List.contains_eq_mem, decide_eq_false_iff_not]
    exact hlevel.notMem (by decide) (by decide)
  rw [parse, String.toList_ofList, hsplit]
  simp only [normalize_of_writable ho hns, hsome, hsingle, Level.parse_of_spells hlevel,
    Bool.false_eq_true, if_false, String.ofList_toList]
  rfl

/-- A text for an override is not blank. -/
lemma Written.not_blank (h : o.Written entry) : ¬ Blank entry := by
  obtain ⟨ns, level, -, -, rfl⟩ := h
  intro hblank
  exact absurd (hblank '=' (by simp)) (by decide)

/-- There is no comma in a text for an override. -/
lemma Written.no_comma (ho : o.Writable) (h : o.Written entry) : ',' ∉ entry := by
  obtain ⟨ns, level, hns, hlevel, rfl⟩ := h
  simp only [List.mem_append, List.mem_cons, not_or]
  exact ⟨hns.notMem (by decide) (by decide) ho.no_comma, by decide,
    hlevel.notMem (by decide) (by decide)⟩

/-- The white space around an entry can be taken away. -/
lemma Written.trim (ho : o.Writable) (h : o.Written entry) : o.Written (trim entry) := by
  obtain ⟨-, -, ⟨before, behind, n, hbefore, hbehind, rfl⟩,
    ⟨between, name, after, hbetween, hafter, hname, rfl⟩, rfl⟩ := h
  set ns := o.namespaceName.toList ++ (List.replicate n [':', ':']).flatten
  obtain ⟨⟨c, rest, hfirst, hc⟩, -⟩ := ho.exists_ends
  obtain ⟨-, ⟨init, d, hlast, hd⟩⟩ := Level.exists_ends hname
  have hentry : before ++ ns ++ behind ++ '=' :: (between ++ name ++ after) =
      before ++ (ns ++ behind ++ '=' :: (between ++ name)) ++ after := by simp
  have hbody : Text.trim (before ++ (ns ++ behind ++ '=' :: (between ++ name)) ++ after) =
      ns ++ behind ++ '=' :: (between ++ name) := by
    have hbegin : ns ++ behind ++ '=' :: (between ++ name) =
        c :: (rest ++ (List.replicate n [':', ':']).flatten ++ behind ++ '=' :: (between ++ name)) := by
      simp [ns, hfirst]
    have hend : ns ++ behind ++ '=' :: (between ++ name) =
        (ns ++ behind ++ '=' :: (between ++ init)) ++ [d] := by
      simp [hlast]
    exact trim_of_blanks hbefore hafter hbegin hc hend hd
  rw [hentry, hbody]
  exact ⟨ns ++ behind, between ++ name, ⟨[], behind, n, by simp, hbehind, by simp [ns]⟩,
    ⟨between, name, [], hbetween, by simp [Blank], hname, by simp⟩, rfl⟩

/-! ## Lists with commas -/

/-- The entries of a text are its pieces that are not blank, without the white space around them. -/
lemma entries_joined (hcomma : ∀ piece ∈ pieces, ',' ∉ piece) :
    Override.entries (joined pieces) =
      (pieces.filter fun piece => ¬ Blank piece).map fun piece => String.ofList (trim piece) := by
  have hsplit : ((splitOnChar ',' (joined pieces).toList).map trim).filter (fun entry => !entry.isEmpty) =
      (pieces.filter fun piece => ¬ Blank piece).map trim := by
    have hblank : ∀ piece : List Char, (!(trim piece).isEmpty) = decide (¬ Blank piece) := by
      intro piece
      rw [Bool.eq_iff_iff]
      simp [blank_iff_trim_eq_nil]
    cases pieces with
    | nil => rfl
    | cons piece pieces =>
      rw [joined, String.toList_ofList, splitOnChar_eq,
        List.splitOn_intercalate ',' hcomma (List.cons_ne_nil _ _), List.filter_map]
      simp only [Function.comp_def, hblank]
  rw [Override.entries, hsplit, List.map_map]
  rfl

/-- Every text is a list of pieces without commas, with commas between them. -/
lemma exists_joined (list : String) :
    ∃ pieces : List (List Char), (∀ piece ∈ pieces, ',' ∉ piece) ∧ pieces ≠ [] ∧ joined pieces = list := by
  refine ⟨splitOnChar ',' list.toList, fun piece => notMem_of_mem_splitOnChar, ?_, ?_⟩
  · rw [splitOnChar_eq]
    exact List.splitOnP_ne_nil _ _
  · rw [joined, splitOnChar_eq, List.intercalate_splitOn, String.ofList_toList]

/-! ## Reading lists -/

/-- There is no comma in the entries of a list. -/
lemma Listed.no_comma (hos : ∀ o ∈ os, o.Writable) (h : Listed entries os) :
    ∀ entry ∈ entries, ',' ∉ entry := by
  induction h with
  | nil => simp
  | @blank entry entries os hblank more ih =>
    intro e he
    rcases List.mem_cons.mp he with rfl | he
    · intro hcomma
      exact absurd (hblank ',' hcomma) (by decide)
    · exact ih hos e he
  | @entry entry entries o os hwritten more ih =>
    intro e he
    rcases List.mem_cons.mp he with rfl | he
    · exact hwritten.no_comma (hos o List.mem_cons_self)
    · exact ih (fun o ho => hos o (List.mem_cons_of_mem _ ho)) e he

/-- **Each entry that is not blank is read back**, with white space around it or without. -/
lemma Listed.parse_eq (hos : ∀ o ∈ os, o.Writable) (h : Listed entries os)
    {form : List Char → List Char} (hform : ∀ o entry, Writable o → o.Written entry → o.Written (form entry)) :
    ((entries.filter fun entry => ¬ Blank entry).map fun entry => parse (String.ofList (form entry))) =
      os.map .ok := by
  induction h with
  | nil => rfl
  | blank hblank more ih =>
    rw [List.filter_cons_of_neg (by simpa using hblank)]
    exact ih hos
  | @entry entry entries o os hwritten more ih =>
    have ho := hos o List.mem_cons_self
    have hread := parse_of_written ho (hform o entry ho hwritten)
    rw [List.filter_cons_of_pos (by simpa using hwritten.not_blank), List.map_cons, hread,
      ih fun o ho => hos o (List.mem_cons_of_mem _ ho), List.map_cons]

/-- **A text with commas is read back**, in order. -/
lemma parseList_joined (hos : ∀ o ∈ os, o.Writable) (h : Listed entries os) :
    parseList (joined entries) = .ok os := by
  rw [parseList, entries_joined (h.no_comma hos), mapM_eq_ok_iff, List.map_map]
  exact h.parse_eq hos fun o entry ho hwritten => hwritten.trim ho

/-- An override is printed as a text for it. -/
lemma written_print (o : Override) : o.Written o.print := by
  have hempty : Blank [] := by decide
  exact ⟨_, _, .refl _, ⟨[], o.level.name.toList, [], hempty, hempty, rfl, by simp⟩, rfl⟩

/-- Overrides are printed as entries for them, in their order. -/
lemma listed_print (os : List Override) : Listed (os.map print) os := by
  induction os with
  | nil => exact .nil
  | cons o os ih => exact .entry (written_print o) ih

/-- Reading undoes printing. -/
lemma parseList_print (hos : ∀ o ∈ os, o.Writable) : parseList (joined (os.map print)) = .ok os :=
  parseList_joined hos (listed_print os)

/-- Looking in a filtered list for the first result is looking for it among the elements that
pass. -/
lemma findSome?_filter {α β : Type} (p : α → Bool) (f : α → Option β) (as : List α) :
    (as.filter p).findSome? f = as.findSome? fun a => if p a then f a else none := by
  induction as with
  | nil => rfl
  | cons a as ih => cases hp : p a <;> simp [List.findSome?_cons, hp, ih]

/-- The error of a piece that is not blank, if it cannot be read. -/
def problem? (piece : List Char) : Option ConfigError :=
  if ¬ Blank piece then error? (parse (String.ofList (trim piece))) else none

/-- The problem with a piece is the one by which the piece is unreadable. -/
lemma problem?_eq_some_iff {piece : List Char} {e : ConfigError} :
    problem? piece = some e ↔ Unreadable piece e := by
  rw [problem?, Option.ite_none_right_eq_some, error?_eq_some_iff, Unreadable]

/-- A list of pieces is refused for the first piece with a problem. -/
lemma error?_parseList (hcomma : ∀ piece ∈ pieces, ',' ∉ piece) :
    error? (parseList (joined pieces)) = pieces.findSome? problem? := by
  rw [parseList, entries_joined hcomma, error?_mapM, List.findSome?_map, findSome?_filter]
  simp only [Function.comp_def, decide_eq_true_eq]
  rfl

/-- **The first entry that cannot be read decides the error**, and blank ones are passed over. -/
lemma parseList_eq_error_iff (hcomma : ∀ piece ∈ pieces, ',' ∉ piece) {e : ConfigError} :
    parseList (joined pieces) = .error e ↔ ∃ before piece after, pieces = before ++ piece :: after ∧
      (∀ piece ∈ before, ∀ e, ¬ Unreadable piece e) ∧ Unreadable piece e := by
  rw [← error?_eq_some_iff, error?_parseList hcomma, List.findSome?_eq_some_iff]
  simp only [Option.eq_none_iff_forall_ne_some, ne_eq, problem?_eq_some_iff]
  constructor
  · rintro ⟨before, piece, after, heq, hpiece, hbefore⟩
    exact ⟨before, piece, after, heq, hbefore, hpiece⟩
  · rintro ⟨before, piece, after, heq, hbefore, hpiece⟩
    exact ⟨before, piece, after, heq, hpiece, hbefore⟩

/-- A list is refused just if one of its pieces is unreadable. -/
lemma exists_parseList_error_iff (hcomma : ∀ piece ∈ pieces, ',' ∉ piece) :
    (∃ e, parseList (joined pieces) = .error e) ↔ ∃ piece ∈ pieces, ∃ e, Unreadable piece e := by
  have hsome := List.findSome?_isSome_iff (f := problem?) (l := pieces)
  simpa only [← error?_parseList hcomma, Option.isSome_iff_exists, error?_eq_some_iff,
    problem?_eq_some_iff] using hsome

/-- If the other fields can be read, the overrides of the settings are those that are read. -/
lemma validate_eq_ok_iff_of_rest {c : Configuration} {st : Settings}
    (hrest : { c with overrides := [] }.validate = .ok st) :
    c.validate = .ok { st with overrides := os } ↔ c.overrides.map parse = os.map .ok := by
  have hmeans := Configuration.validate_eq_ok_iff.mp hrest
  constructor
  · intro h
    exact (Configuration.validate_eq_ok_iff.mp h).overrides
  · intro hread
    exact Configuration.validate_eq_ok_iff.mpr ⟨hmeans.filter, hread, hmeans.target,
      hmeans.aspectFilter, hmeans.layout, hmeans.errorThreshold, hmeans.captureStack⟩

/-- **Overrides are read back from lists.**  Let entries spell overrides that can be written, with blank
ones among them.  Read from a text with commas they give the overrides in order, and the entries that are
not blank give the same settings in a configuration whose other fields can be read.  Any text gives the
same overrides as its entries in such a configuration.  It is made of pieces without commas, and reading
it fails just if one of these that is not blank cannot be read.  The error is that of the first one.

**Proof sketch.**  Neither the texts for a namespace nor those for a level have commas or `=` in them, so
that the text is split between the entries and each entry between its sides.  Trimming and dropping
separators leaves the name itself, which has neither at its ends.  As reading stops at the first error,
that is the first one in order. -/
theorem parseList_of_listed :
    (∀ entries os, (∀ o ∈ os, Writable o) → Listed entries os →
      parseList (joined entries) = .ok os ∧
      ∀ (c : Configuration) (st : Settings), { c with overrides := [] }.validate = .ok st →
        c.overrides = (entries.filter fun entry => ¬ Blank entry).map String.ofList →
          c.validate = .ok { st with overrides := os }) ∧
    (∀ (list : String) (c : Configuration) (st : Settings),
      { c with overrides := [] }.validate = .ok st → c.overrides = Override.entries list →
        ∀ os, parseList list = .ok os ↔ c.validate = .ok { st with overrides := os }) ∧
    ∀ list : String, ∃ pieces : List (List Char), (∀ piece ∈ pieces, ',' ∉ piece) ∧ pieces ≠ [] ∧
      joined pieces = list ∧
      ((∃ e, parseList list = .error e) ↔ ∃ piece ∈ pieces, ∃ e, Unreadable piece e) ∧
      ∀ e, parseList list = .error e ↔ ∃ before piece after, pieces = before ++ piece :: after ∧
        (∀ piece ∈ before, ∀ e, ¬ Unreadable piece e) ∧ Unreadable piece e := by
  refine ⟨?listed, ?agree, ?error⟩
  case listed =>
    intro entries os hos hlisted
    refine ⟨parseList_joined hos hlisted, fun c st hrest hentries => ?_⟩
    rw [validate_eq_ok_iff_of_rest hrest, hentries, List.map_map]
    exact hlisted.parse_eq hos fun o entry ho hwritten => hwritten
  case agree =>
    intro list c st hrest hentries os
    rw [validate_eq_ok_iff_of_rest hrest, hentries, parseList, mapM_eq_ok_iff]
  case error =>
    intro list
    obtain ⟨pieces, hcomma, hne, rfl⟩ := exists_joined list
    exact ⟨pieces, hcomma, hne, rfl, exists_parseList_error_iff hcomma, fun e =>
      parseList_eq_error_iff hcomma⟩

/-- Two overrides in other letter cases, with separators, white space and an empty entry among them. -/
theorem parseList_of_listed_spaced :
    parseList " app::db:: = Warn ,,hyper=ERROR" = .ok [⟨"app::db", .warn⟩, ⟨"hyper", .error⟩] ∧
    ∃ st, Configuration.validate { overrides := [" app::db:: = Warn ", "hyper=ERROR"] } = .ok st ∧
      st.overrides = [⟨"app::db", .warn⟩, ⟨"hyper", .error⟩] := by
  set os : List Override := [⟨"app::db", .warn⟩, ⟨"hyper", .error⟩]
  set entries := [" app::db:: = Warn ".toList, [], "hyper=ERROR".toList]
  have hdb : Writable ⟨"app::db", .warn⟩ := ⟨by decide, by decide, by decide, by decide, by decide⟩
  have hhyper : Writable ⟨"hyper", .error⟩ := ⟨by decide, by decide, by decide, by decide, by decide⟩
  have hos : ∀ o ∈ os, Writable o := by
    intro o ho
    simp only [os, List.mem_cons, List.not_mem_nil, or_false] at ho
    rcases ho with rfl | rfl
    · exact hdb
    · exact hhyper
  have hspace : Blank [' '] := by decide
  have hnone : Blank [] := by decide
  have hspaced : Written ⟨"app::db", .warn⟩ " app::db:: = Warn ".toList :=
    ⟨" app::db:: ".toList, " Warn ".toList, ⟨[' '], [' '], 1, hspace, hspace, rfl⟩,
      ⟨[' '], "Warn".toList, [' '], hspace, hspace, by decide, rfl⟩, rfl⟩
  have hlisted : Listed entries os := .entry hspaced (.blank hnone (listed_print [⟨"hyper", .error⟩]))
  have hjoined : joined entries = " app::db:: = Warn ,,hyper=ERROR" := by decide
  have hentries : (entries.filter fun entry => ¬ Blank entry).map String.ofList =
      [" app::db:: = Warn ", "hyper=ERROR"] := by decide
  obtain ⟨st, hst⟩ := Configuration.exists_means_iff.mpr Configuration.acceptable_default
  obtain ⟨hread, hvalidate⟩ := parseList_of_listed.1 entries os hos hlisted
  rw [hjoined] at hread
  rw [hentries] at hvalidate
  exact ⟨hread, _, hvalidate _ st (Configuration.validate_eq_ok_iff.mpr hst) rfl, rfl⟩

end Override

end NamespaceLogging
