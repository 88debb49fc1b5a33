import Mathlib.Data.List.DropRight
import Mathlib.Data.List.TakeWhile
import NamespaceLogging.Proofs.TemplateMeaning

/-!
# Integers in messages

A directive writes an integer of 64 bits in decimal, with a minus sign in front of a negative one, or
in base sixteen or eight as the word of its bits.  It fills the text up to its width, with spaces in
front or behind, or with zeros between the sign and the digits.  Whatever flags and width it has,
nothing of the integer is lost: it can be read back from what is left without the spaces.

## Main definitions

* `readNat?`, `readInt?`: reading digits of a base, and reading decimals with a sign.
* `Directive.sized`: a directive whose width is written as a number.
* `Directive.message`: the message of a directive that stands alone.
* `Directive.unpadded`: a text without the spaces that a directive fills it up with.

## Main results

* `readNat?_toDigits`: the digits of a number are read back, in either letter case.
* `Directive.padded_numeral`: a numeral is filled up with zeros behind its sign, or with spaces.
* `Directive.message_of_integer`: the message of a directive for an integer.
-/

set_option autoImplicit false

namespace NamespaceLogging

/-! ## Reading numbers -/

/-- The value of a digit in bases up to sixteen, with small or large letters. -/
def digitValue? (c : Char) : Option Nat :=
  if c.isDigit then some (c.toNat - '0'.toNat)
  else if 'a' ≤ c ∧ c ≤ 'f' then some (10 + (c.toNat - 'a'.toNat))
  else if 'A' ≤ c ∧ c ≤ 'F' then some (10 + (c.toNat - 'A'.toNat))
  else none

/-- The value of some digits of a base that stand behind digits with the value `n`. -/
def readOn? (base n : Nat) : List Char → Option Nat
  | [] => some n
  | c :: cs =>
    match digitValue? c with
    | some d => if d < base then readOn? base (base * n + d) cs else none
    | none => none

/-- The number with these digits in a base, of which there has to be one. -/
def readNat? (base : Nat) (cs : List Char) : Option Nat :=
  if cs.isEmpty then none else readOn? base 0 cs

/-- The integer with these decimal digits, which may have a minus sign in front of them. -/
def readInt? : List Char → Option Int
  | '-' :: cs => (readNat? 10 cs).map fun n : Nat => -(n : Int)
  | cs => (readNat? 10 cs).map fun n : Nat => (n : Int)

section Reading

variable {base n k : Nat} {cs : List Char} {spell : Char → Char}

/-- A numeral is read from the left: first some of its digits, then the rest. -/
lemma readOn?_append (more : List Char) :
    readOn? base n (cs ++ more) = (readOn? base n cs).bind fun m => readOn? base m more := by
  induction cs generalizing n with
  | nil => rfl
  | cons c cs ih =>
    simp only [List.cons_append, readOn?]
    cases digitValue? c with
    | none => rfl
    | some d =>
      by_cases hd : d < base
      · simp only [hd, if_true, ih]
      · simp [hd]

/-- Zeros in front of a number do not count. -/
lemma readOn?_zeros (hbase : 0 < base) (k : Nat) :
    readOn? base 0 (List.replicate k '0' ++ cs) = readOn? base 0 cs := by
  induction k with
  | zero => rfl
  | succ k ih =>
    have hzero : digitValue? '0' = some 0 := by decide
    simp [List.replicate_succ, readOn?, hzero, hbase, ih]

/-- The digits of a base, when each is spelled so that its value can be read. -/
def Legible (base : Nat) (spell : Char → Char) : Prop :=
  ∀ d < base, digitValue? (spell d.digitChar) = some d

/-- Digits can be read back as they are written, up to base sixteen. -/
lemma legible_small {base : Nat} (h : base ≤ 16) : Legible base id := by
  have hall : ∀ d < 16, digitValue? (id d.digitChar) = some d := by decide
  intro d hd
  exact hall d (Nat.lt_of_lt_of_le hd h)

/-- Digits in capital letters can be read back as well. -/
lemma legible_large : Legible 16 Char.toUpper := by
  unfold Legible
  decide

/-- **The digits of a number are read back.** -/
lemma readOn?_toDigits (hbase : 1 < base) (hspell : Legible base spell) (n : Nat) :
    readOn? base 0 ((Nat.toDigits base n).map spell) = some n := by
  induction n using Nat.strongRecOn with
  | _ n ih =>
    have hlast : ∀ m d, d < base → readOn? base m ([d.digitChar].map spell) = some (base * m + d) := by
      intro m d hd
      simp [readOn?, hspell d hd, hd]
    rw [Nat.toDigits_eq_if hbase]
    split
    · rename_i hn
      rw [hlast 0 n hn, Nat.mul_zero, Nat.zero_add]
    · rename_i hn
      have hless : n / base < n := Nat.div_lt_self (by omega) hbase
      rw [List.map_append, readOn?_append, ih _ hless, Option.bind_some,
        hlast _ _ (Nat.mod_lt n (by omega)), Nat.div_add_mod]

/-- A number that is written with some zeros in front is read back. -/
lemma readNat?_toDigits (hbase : 1 < base) (hspell : Legible base spell) (n k : Nat) :
    readNat? base (List.replicate k '0' ++ (Nat.toDigits base n).map spell) = some n := by
  have hsome : (List.replicate k '0' ++ (Nat.toDigits base n).map spell).isEmpty = false := by
    simp
  rw [readNat?, hsome, readOn?_zeros (by omega), readOn?_toDigits hbase hspell]
  rfl

/-- Every digit of a number is a digit of the base. -/
lemma exists_of_mem_toDigits (hbase : 1 < base) {c : Char} (hc : c ∈ Nat.toDigits base n) :
    ∃ d < base, c = d.digitChar := by
  induction n using Nat.strongRecOn with
  | _ n ih =>
    rw [Nat.toDigits_eq_if hbase] at hc
    split at hc
    · rename_i hn
      exact ⟨n, hn, List.mem_singleton.mp hc⟩
    · rename_i hn
      rcases List.mem_append.mp hc with hc | hc
      · exact ih _ (Nat.div_lt_self (by omega) hbase) hc
      · exact ⟨n % base, Nat.mod_lt n (by omega), List.mem_singleton.mp hc⟩

/-- A number that is not zero does not begin with a zero. -/
lemma head?_toDigits_ne (hn : 0 < n) : (Nat.toDigits 10 n).head? ≠ some '0' := by
  induction n using Nat.strongRecOn with
  | _ n ih =>
    rw [Nat.toDigits_eq_if (by decide)]
    split
    · rename_i hlt
      have hall : ∀ d < 10, 0 < d → [d.digitChar].head? ≠ some '0' := by decide
      exact hall n hlt hn
    · rename_i hge
      rw [List.head?_append_of_ne_nil _ Nat.toDigits_ne_nil]
      exact ih _ (by omega) (by omega)

end Reading

/-- The integer that an argument of 64 bits is, with or without a sign. -/
def Argument.word? : Argument → Option Int
  | int value => some value.toInt
  | uint value => some value.toNat
  | _ => none

/-- A word is an integer. -/
lemma Argument.integer?_of_word? {arg : Argument} {n : Int} (h : arg.word? = some n) :
    arg.integer? = some n := by
  cases arg <;> simp_all [word?, integer?]

/-- The bits of an integer as a number, negative ones in two's complement. -/
def wordOf (n : Int) : Nat := (n % Nat.pow 2 64).toNat

namespace Directive

/-! ## Directives with a width -/

/-- A width as it is written; no width is as good as zero. -/
def widthText (w : Nat) : List Char := if w = 0 then [] else Nat.toDigits 10 w

/-- A directive whose width is written as a number. -/
def sized (flags : List Char) (w : Nat) (precision : Option (List Char)) (conversion : Char) :
    Directive :=
  ⟨flags, widthText w, precision, conversion⟩

/-- The message of a template that is one directive, for one argument. -/
def message (d : Directive) (arg : Argument) : List Char :=
  (Template.render (String.ofList d.source) [arg]).toList

/-- A text without the spaces that the directive fills it up with: behind it if there is the flag for
the left side, else in front of it. -/
def unpadded (d : Directive) (text : List Char) : List Char :=
  if '-' ∈ d.flags then text.rdropWhile (· == ' ') else text.dropWhile (· == ' ')

/-- The conversions that write integers, and the base in which they do. -/
def base? : Char → Option Nat
  | 'd' | 'i' | 'u' => some 10
  | 'x' | 'X' => some 16
  | 'o' => some 8
  | _ => none

variable {d : Directive} {flags : List Char} {w : Nat} {precision : Option (List Char)}
  {conversion : Char} {arg : Argument} {base : Nat}

/-- A width in a directive is read as its number, or as the largest one if it is larger. -/
lemma number?_widthText (w : Nat) : (number? (widthText w)).getD 0 = min largestNumber w := by
  rw [widthText]
  split
  · rename_i hw
    simp [number?, hw]
  · have hsome : (Nat.toDigits 10 w).isEmpty = false := by simp
    rw [number?, hsome, ← Nat.ofDigitChars_eq_foldl, Nat.ofDigitChars_ten_toDigits]
    rfl

/-- The conversions that write integers. -/
lemma conversion_cases (h : base? conversion = some base) :
    conversion = 'd' ∨ conversion = 'i' ∨ conversion = 'u' ∨ conversion = 'x' ∨ conversion = 'X' ∨
      conversion = 'o' := by
  unfold base? at h
  split at h <;> simp_all

/-- A directive with a width for an integer is written by the rules. -/
lemma formed_sized (hflags : ∀ c ∈ flags, Template.isFlag c = true)
    (hprecision : ∀ digits, precision = some digits → ∀ c ∈ digits, c.isDigit = true)
    (hbase : base? conversion = some base) :
    (TemplatePiece.directive (sized flags w precision conversion)).Formed := by
  have hconversion : conversion ≠ '.' ∧ conversion.isDigit = false ∧
      Template.isFlag conversion = false := by
    rcases conversion_cases hbase with rfl | rfl | rfl | rfl | rfl | rfl <;> decide
  have hpoint : ∀ c, (point precision ++ [conversion]).head? = some c →
      c.isDigit = false ∧ Template.isFlag c = false := by
    intro c hc
    cases precision with
    | none =>
      obtain rfl : conversion = c := by simpa [point] using hc
      exact hconversion.2
    | some digits =>
      obtain rfl : '.' = c := by simpa [point] using hc
      decide
  refine ⟨⟨hflags, ?_⟩, ⟨?_, fun c hc => (hpoint c hc).1⟩, ?_, ?_⟩
  · intro c hc
    by_cases hw : w = 0
    · exact (hpoint c (by simpa [sized, widthText, hw] using hc)).2
    · have hhead : (Nat.toDigits 10 w).head? = some c := by
        rw [← hc, sized, widthText, if_neg hw, List.head?_append_of_ne_nil _ Nat.toDigits_ne_nil]
      have hdigit : c.isDigit = true :=
        Nat.isDigit_of_mem_toDigits (by decide) (by decide) (List.mem_of_head? hhead)
      have hzero : c ≠ '0' := by
        rintro rfl
        exact head?_toDigits_ne (Nat.pos_of_ne_zero hw) hhead
      have hminus : c ≠ '-' := by
        rintro rfl
        exact absurd hdigit (by decide)
      simp [Template.isFlag, hzero, hminus]
  · intro c hc
    by_cases hw : w = 0
    · simp [sized, widthText, hw] at hc
    · have hmem : c ∈ Nat.toDigits 10 w := by simpa [sized, widthText, hw] using hc
      exact Nat.isDigit_of_mem_toDigits (by decide) (by decide) hmem
  · rintro -
    simpa [sized] using hconversion.1
  · intro digits hdigits
    refine ⟨hprecision digits hdigits, ?_⟩
    intro c hc
    obtain rfl : conversion = c := by simpa [sized] using hc
    exact hconversion.2.1

/-- The message of a directive that stands alone is what it writes for its argument, unless the width
is too great. -/
lemma message_eq (hformed : (TemplatePiece.directive d).Formed) (hbase : base? d.conversion = some base)
    (arg : Argument) : d.message arg = d.padded (d.convert arg) ∧
      Template.checked (String.ofList d.source) [arg] =
        if greatestWidth < (number? d.width).getD 0 then .error .tooLong
        else .ok (String.ofList (d.message arg)) := by
  have hpieces : Template.pieces d.source = [.directive d] := by
    have hread := Template.pieces_directive hformed []
    rwa [List.append_nil, Template.pieces] at hread
  have htakes : d.conversion ≠ '%' ∧ d.conversion ≠ 'n' ∧ d.conversion ≠ 'f' ∧ d.conversion ≠ 'e' ∧
      d.takesArgument = true := by
    rw [takesArgument]
    rcases conversion_cases hbase with h | h | h | h | h | h <;> rw [h] <;> decide
  obtain ⟨hpercent, hline, hfixed, hscientific, htakes⟩ := htakes
  have hmessage : d.message arg = d.padded (d.convert arg) := by
    simp [message, Template.render, hpieces, Template.renderPieces, Template.renderPiece, hpercent,
      hline, htakes, Template.surplus]
  refine ⟨hmessage, ?_⟩
  have hfault : d.fault? arg =
      if greatestWidth < (number? d.width).getD 0 then some .tooLong else none := by
    simp [fault?, hasPlaces, hfixed, hscientific]
  have hmessages : String.ofList (Template.renderPieces [.directive d] [arg]) =
      String.ofList (d.message arg) := by
    simp [message, Template.render, hpieces]
  rw [Template.checked, String.toList_ofList, hpieces]
  simp only [Template.fault?, htakes, if_true, hfault, Option.or_none, hmessages]
  by_cases hwidth : greatestWidth < (number? d.width).getD 0
  · simp only [if_pos hwidth]
  · simp only [if_neg hwidth]

/-! ## Filling up -/

/-- A text is filled up to the width. -/
lemma length_padded (d : Directive) (piece : List Char) :
    (d.padded piece).length = max ((number? d.width).getD 0) piece.length := by
  unfold padded
  simp only
  split
  · simp only [List.length_append, List.length_replicate]
    omega
  · split
    · split
      · simp only [List.length_cons, List.length_append, List.length_replicate]
        omega
      · simp only [List.length_append, List.length_replicate]
        omega
    · simp only [List.length_append, List.length_replicate]
      omega

/-- **A numeral is filled up** with zeros between its sign and its digits, which takes the flag for
zeros and not the one for the left side, and else with spaces. -/
lemma padded_numeral {sign digits : List Char} (hsign : sign = [] ∨ sign = ['-'])
    (hdigits : digits.head? ≠ some '-') :
    ∃ zeros spaces, (zeros ≠ 0 → '0' ∈ d.flags ∧ '-' ∉ d.flags) ∧
      d.padded (sign ++ digits) =
        if '-' ∈ d.flags then sign ++ (List.replicate zeros '0' ++ digits) ++ List.replicate spaces ' '
        else List.replicate spaces ' ' ++ (sign ++ (List.replicate zeros '0' ++ digits)) := by
  set missing := (number? d.width).getD 0 - (sign ++ digits).length with hmissing
  by_cases hleft : '-' ∈ d.flags
  · refine ⟨0, missing, by simp, ?_⟩
    simp [padded, hleft, hmissing]
  · by_cases hzeros : ('0' ∈ d.flags ∧ d.isNumeric = true) ∧ 0 < missing
    · refine ⟨missing, 0, fun _ => ⟨hzeros.1.1, hleft⟩, ?_⟩
      have hfill : (d.flags.contains '0' && d.isNumeric && decide (0 < missing)) = true := by
        simp [hzeros]
      simp only [padded, List.contains_iff_mem, hleft, if_false, ← hmissing, hfill, if_true]
      rcases hsign with rfl | rfl
      · split
        · rename_i heq
          rw [List.nil_append] at heq
          simp [heq] at hdigits
        · simp
      · simp
    · refine ⟨0, missing, by simp, ?_⟩
      have hfill : (d.flags.contains '0' && d.isNumeric && decide (0 < missing)) = false := by
        simpa [and_assoc] using hzeros
      simp only [padded, List.contains_iff_mem, hleft, if_false, ← hmissing, hfill, List.replicate_zero,
        List.nil_append, Bool.false_eq_true]

/-- The spaces are found again if there are none in the text. -/
lemma unpadded_eq {body : List Char} (hbody : ∀ c ∈ body, c ≠ ' ') (spaces : Nat) :
    d.unpadded (if '-' ∈ d.flags then body ++ List.replicate spaces ' '
      else List.replicate spaces ' ' ++ body) = body := by
  have hlongest : ∀ rest : List Char, (∀ c ∈ rest, c ≠ ' ') →
      Template.Longest (· == ' ') (List.replicate spaces ' ') rest := by
    intro rest hrest
    constructor
    · intro c hc
      simp [List.eq_of_mem_replicate hc]
    · intro c hc
      simpa using hrest c (List.mem_of_head? hc)
  rw [unpadded]
  split
  · have hreverse := (hlongest body.reverse (by simpa using hbody)).dropWhile_eq
    rw [List.rdropWhile, List.reverse_append, List.reverse_replicate, hreverse, List.reverse_reverse]
  · exact (hlongest body hbody).dropWhile_eq

/-! ## Integers -/

/-- The sign in front of an integer.  Other bases than ten need none. -/
def signOf (base : Nat) (n : Int) : List Char := if base = 10 ∧ n < 0 then ['-'] else []

/-- The number whose digits are written for an integer: its absolute value, or the word of its bits. -/
def magnitude (base : Nat) (n : Int) : Nat := if base = 10 then n.natAbs else wordOf n

/-- How digits are spelled. -/
def spelling (conversion : Char) : Char → Char := if conversion = 'X' then Char.toUpper else id

/-- The digits that are written for an integer. -/
def digitsOf (conversion : Char) (base : Nat) (n : Int) : List Char :=
  (Nat.toDigits base (magnitude base n)).map (spelling conversion)

variable {n : Int}

/-- The bases in which integers are written, and that their digits can be read. -/
lemma base_spec (hbase : base? conversion = some base) :
    1 < base ∧ base ≤ 16 ∧ Legible base (spelling conversion) := by
  unfold base? at hbase
  split at hbase
  case h_5 =>
    obtain rfl := Option.some.inj hbase
    exact ⟨by decide, by decide, legible_large⟩
  case h_7 => simp at hbase
  all_goals
    obtain rfl := Option.some.inj hbase
    exact ⟨by decide, by decide, legible_small (by decide)⟩

/-- **An integer is written as a sign and digits**, whatever the precision. -/
lemma convert_eq (hbase : base? d.conversion = some base) (hinteger : arg.integer? = some n) :
    d.convert arg = signOf base n ++ digitsOf d.conversion base n := by
  have hfloat : ∀ value, arg ≠ .float value := by
    rintro value rfl
    simp [Argument.integer?] at hinteger
  have hdecimal : ∀ c, c ≠ 'X' → signOf 10 n ++ digitsOf c 10 n = intText n := by
    intro c hc
    simp [intText, signOf, digitsOf, magnitude, spelling, hc]
  have hother : ∀ c base, base ≠ 10 →
      signOf base n ++ digitsOf c base n = (Nat.toDigits base (wordOf n)).map (spelling c) := by
    intro c base hten
    simp [signOf, digitsOf, magnitude, hten]
  obtain ⟨flags, width, precision, conversion⟩ := d
  dsimp only at hbase ⊢
  unfold base? at hbase
  split at hbase
  case h_7 => simp at hbase
  case h_1 | h_2 | h_3 =>
    obtain rfl := Option.some.inj hbase
    rw [hdecimal _ (by decide)]
    cases arg with
    | float value => exact absurd rfl (hfloat value)
    | _ => simp only [convert, hinteger]
  all_goals
    obtain rfl := Option.some.inj hbase
    rw [hother _ _ (by decide)]
    simp [convert, hinteger, wordDigits, wordOf, spelling]

/-- The digits of an integer are neither signs nor spaces. -/
lemma digitsOf_spec (hbase : base? conversion = some base) (n : Int) {c : Char}
    (hc : c ∈ digitsOf conversion base n) : c ≠ '-' ∧ c ≠ ' ' := by
  obtain ⟨hlt, hle, hlegible⟩ := base_spec hbase
  obtain ⟨c', hc', rfl⟩ := List.mem_map.mp hc
  obtain ⟨k, hk, rfl⟩ := exists_of_mem_toDigits hlt hc'
  have hvalue := hlegible k hk
  constructor
  · intro heq
    have hnone : digitValue? '-' = none := by decide
    simp [heq, hnone] at hvalue
  · intro heq
    have hnone : digitValue? ' ' = none := by decide
    simp [heq, hnone] at hvalue

/-- The decimals of an integer are read back, with zeros behind its sign or without. -/
lemma readInt?_numeral (hbase : base? conversion = some 10) (n : Int) (zeros : Nat) :
    readInt? (signOf 10 n ++ (List.replicate zeros '0' ++ digitsOf conversion 10 n)) = some n := by
  obtain ⟨-, -, hlegible⟩ := base_spec hbase
  have hread : readNat? 10 (List.replicate zeros '0' ++ digitsOf conversion 10 n) = some n.natAbs :=
    readNat?_toDigits (by decide) hlegible _ _
  by_cases hn : n < 0
  · have hsign : signOf 10 n = ['-'] := if_pos ⟨rfl, hn⟩
    rw [hsign, List.singleton_append, readInt?, hread, Option.map_some]
    congr 1
    omega
  · have hsign : signOf 10 n = [] := if_neg fun h => hn h.2
    rw [hsign, List.nil_append, readInt?, hread, Option.map_some]
    · congr 1
      omega
    · intro cs heq
      have hmem : '-' ∈ List.replicate zeros '0' ++ digitsOf conversion 10 n := by
        rw [heq]
        exact List.mem_cons_self
      rcases List.mem_append.mp hmem with hzero | hdigit
      · exact absurd (List.eq_of_mem_replicate hzero) (by decide)
      · exact (digitsOf_spec hbase n hdigit).1 rfl

/-- The digits of a word are read back, with zeros in front of them or without. -/
lemma readNat?_numeral (hbase : base? conversion = some base) (hten : base ≠ 10) (n : Int)
    (zeros : Nat) :
    readNat? base (signOf base n ++ (List.replicate zeros '0' ++ digitsOf conversion base n)) =
      some (wordOf n) := by
  obtain ⟨hlt, -, hlegible⟩ := base_spec hbase
  have hsign : signOf base n = [] := if_neg fun h => hten h.1
  have hmagnitude : magnitude base n = wordOf n := if_neg hten
  rw [hsign, List.nil_append, digitsOf, hmagnitude]
  exact readNat?_toDigits hlt hlegible _ _

/-- The word of an integer with a sign gives the integer back, read as two's complement. -/
lemma toInt64_wordOf (v : Int64) : (UInt64.ofNat (wordOf v.toInt)).toInt64 = v := by
  have hsize : ((Nat.pow 2 64 : Nat) : Int) = (Int64.size : Nat) := rfl
  have hpos : (0 : Int) ≤ v.toInt % (Int64.size : Nat) := Int.emod_nonneg _ (by decide)
  apply Int64.toInt_inj.mp
  rw [UInt64.toInt64_ofNat', Int64.toInt_ofNat', wordOf, hsize, Int.toNat_of_nonneg hpos, Int.emod_bmod]
  exact Int64.toInt_bmod v

/-! ## Messages of integers -/

section Messages

variable (hflags : ∀ c ∈ flags, Template.isFlag c = true)
  (hprecision : ∀ digits, precision = some digits → ∀ c ∈ digits, c.isDigit = true)
  (hbase : base? conversion = some base) (harg : arg.word? = some n)

include hflags hprecision hbase harg

/-- The message of a directive with a width is the filled up integer. -/
lemma message_sized : (sized flags w precision conversion).message arg =
    (sized flags w precision conversion).padded (signOf base n ++ digitsOf conversion base n) := by
  rw [(message_eq (formed_sized hflags hprecision hbase) hbase arg).1,
    convert_eq hbase (Argument.integer?_of_word? harg)]
  rfl

/-- The message is as long as the width, if the integer is not longer. -/
lemma length_message : ((sized flags w precision conversion).message arg).length =
    max (min largestNumber w) (signOf base n ++ digitsOf conversion base n).length := by
  rw [message_sized hflags hprecision hbase harg, length_padded]
  congr 1
  exact number?_widthText w

/-- Without the spaces the message is a sign, zeros and the digits of the integer. -/
lemma exists_unpadded_message : ∃ zeros, (zeros ≠ 0 → '0' ∈ flags ∧ '-' ∉ flags) ∧
    (sized flags w precision conversion).unpadded ((sized flags w precision conversion).message arg) =
      signOf base n ++ (List.replicate zeros '0' ++ digitsOf conversion base n) := by
  have hsign : signOf base n = [] ∨ signOf base n = ['-'] := by
    unfold signOf
    split
    · exact .inr rfl
    · exact .inl rfl
  have hdigits : (digitsOf conversion base n).head? ≠ some '-' := by
    intro hhead
    exact (digitsOf_spec hbase n (List.mem_of_head? hhead)).1 rfl
  obtain ⟨zeros, spaces, hzeros, hpadded⟩ :=
    padded_numeral (d := sized flags w precision conversion) hsign hdigits
  refine ⟨zeros, hzeros, ?_⟩
  rw [message_sized hflags hprecision hbase harg, hpadded]
  apply unpadded_eq
  intro c hc
  rcases List.mem_append.mp hc with hc | hc
  · rcases hsign with hsign | hsign <;> rw [hsign] at hc
    · exact absurd hc List.not_mem_nil
    · rw [List.mem_singleton.mp hc]
      decide
  · rcases List.mem_append.mp hc with hc | hc
    · rw [List.eq_of_mem_replicate hc]
      decide
    · exact (digitsOf_spec hbase n hc).2

end Messages

/-- **Integers survive in messages.**  Let a directive for integers have any flags, any width and
possibly a precision.  Its message is as long as the width or as the integer, and what is left of it
without the spaces is read back as the integer, or in base sixteen and eight as the word of its bits,
which gives an integer with a sign back.  Zeros stand behind the sign, and there are none if the flag for
the left side is there.  The precision changes nothing.  The message is written unless the width is
greater than any text can be.  A width is read up to the largest number of the machine, and a greater one
stands for that.

**Proof sketch.**  What the directive writes is a sign and digits.  Filling up adds zeros between the
two or spaces outside, and neither signs nor digits are spaces, so that dropping the spaces leaves the
sign, the zeros and the digits, of which the zeros do not count. -/
theorem message_of_integer (hflags : ∀ c ∈ flags, Template.isFlag c = true)
    (hprecision : ∀ digits, precision = some digits → ∀ c ∈ digits, c.isDigit = true)
    (hbase : base? conversion = some base) (harg : arg.word? = some n) :
    let d := sized flags w precision conversion
    (base = 10 → (d.message arg).length = max (min largestNumber w) (intText n).length ∧
      readInt? (d.unpadded (d.message arg)) = some n) ∧
    (base ≠ 10 →
      (d.message arg).length = max (min largestNumber w) (Nat.toDigits base (wordOf n)).length ∧
      readNat? base (d.unpadded (d.message arg)) = some (wordOf n) ∧
      ∀ v, arg = .int v → (UInt64.ofNat (wordOf n)).toInt64 = v) ∧
    (∃ zeros, (zeros ≠ 0 → '0' ∈ flags ∧ '-' ∉ flags) ∧ d.unpadded (d.message arg) =
      signOf base n ++ (List.replicate zeros '0' ++ digitsOf conversion base n)) ∧
    d.message arg = (sized flags w none conversion).message arg ∧
    ('-' ∈ flags → d.message arg = (sized ['-'] w precision conversion).message arg) ∧
    Template.checked (String.ofList d.source) [arg] =
      if greatestWidth < w then .error .tooLong else .ok (String.ofList (d.message arg)) := by
  intro d
  have hlength := length_message (w := w) hflags hprecision hbase harg
  obtain ⟨zeros, hzeros, hunpadded⟩ := exists_unpadded_message (w := w) hflags hprecision hbase harg
  refine ⟨?decimal, ?word, ⟨zeros, hzeros, hunpadded⟩, ?precise, ?left, ?written⟩
  case decimal =>
    rintro rfl
    have hspelling : spelling conversion = id := by
      apply if_neg
      rintro rfl
      simp [base?] at hbase
    have htext : signOf 10 n ++ digitsOf conversion 10 n = intText n := by
      simp [intText, signOf, digitsOf, magnitude, hspelling]
    rw [htext] at hlength
    refine ⟨hlength, ?_⟩
    rw [hunpadded]
    exact readInt?_numeral hbase n zeros
  case word =>
    intro hten
    have htext : (signOf base n ++ digitsOf conversion base n).length =
        (Nat.toDigits base (wordOf n)).length := by
      simp [signOf, digitsOf, magnitude, hten]
    rw [htext] at hlength
    refine ⟨hlength, ?_, ?_⟩
    · rw [hunpadded]
      exact readNat?_numeral hbase hten n zeros
    · rintro v rfl
      obtain rfl : v.toInt = n := Option.some.inj harg
      exact toInt64_wordOf v
  case precise =>
    have hnone : ∀ digits, (none : Option (List Char)) = some digits →
        ∀ c ∈ digits, c.isDigit = true := by simp
    rw [message_sized hflags hprecision hbase harg, message_sized hflags hnone hbase harg]
    rfl
  case left =>
    intro hleft
    have hflag : ∀ c ∈ ['-'], Template.isFlag c = true := by simp [Template.isFlag]
    rw [message_sized hflags hprecision hbase harg, message_sized hflag hprecision hbase harg]
    simp [padded, sized, hleft]
  case written =>
    have hgreatest : greatestWidth < min largestNumber w ↔ greatestWidth < w := by
      have hless : greatestWidth < largestNumber := by decide
      rw [Nat.lt_min, and_iff_right hless]
    have hwidth : (number? (sized flags w precision conversion).width).getD 0 = min largestNumber w :=
      number?_widthText w
    have hchecked := (message_eq (formed_sized (w := w) hflags hprecision hbase) hbase arg).2
    rw [hwidth] at hchecked
    simp only [hgreatest] at hchecked
    exact hchecked

/-- The least integer is filled up with zeros behind its sign.  Its word stands on the left side, with
large digits, where neither the flag for zeros nor the precision does anything. -/
theorem message_of_integer_least :
    readInt? ((sized ['0'] 25 none 'd').unpadded
      ((sized ['0'] 25 none 'd').message (.int Int64.minValue))) = some (-9223372036854775808) ∧
    readNat? 16 ((sized ['0', '-'] 20 (some ['3']) 'X').unpadded
      ((sized ['0', '-'] 20 (some ['3']) 'X').message (.int Int64.minValue))) = some 9223372036854775808 ∧
    (sized ['0', '-'] 20 (some ['3']) 'X').message (.int Int64.minValue) =
      (sized ['-'] 20 (some ['3']) 'X').message (.int Int64.minValue) := by
  have hword : (Argument.int Int64.minValue).word? = some (-9223372036854775808) := by decide
  have hzero : ∀ c ∈ ['0'], Template.isFlag c = true := by simp [Template.isFlag]
  have hboth : ∀ c ∈ ['0', '-'], Template.isFlag c = true := by simp [Template.isFlag]
  have hnone : ∀ digits, (none : Option (List Char)) = some digits → ∀ c ∈ digits, c.isDigit = true := by
    simp
  have hthree : ∀ digits, some ['3'] = some digits → ∀ c ∈ digits, c.isDigit = true := by
    rintro digits ⟨⟩
    simp
  have hten : base? 'd' = some 10 := rfl
  have hsixteen : base? 'X' = some 16 := rfl
  obtain ⟨hdecimal, -⟩ := message_of_integer (w := 25) hzero hnone hten hword
  obtain ⟨-, hhexadecimal, -, -, hleft, -⟩ := message_of_integer (w := 20) hboth hthree hsixteen hword
  exact ⟨(hdecimal rfl).2, (hhexadecimal (by decide)).2.1, hleft (by decide)⟩

end Directive

end NamespaceLogging
