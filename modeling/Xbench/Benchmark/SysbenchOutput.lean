import Mathlib.Algebra.Order.Ring.Rat
import Mathlib.Data.List.Infix
import Xbench.Lib.Regex

/-!
# Reading a Sysbench Report

`parse_output` goes through a report line by line. Two lines begin sections,
and a field is looked for in its own section only. A field line that the
pattern does not fit counts as zero, and so does one that never comes.

Only the rate of the transactions is looked at in the end. A report without
one is rejected, and so is a report that prints a rate of zero; whatever is
missing behind the line of the transactions is not noticed.

A report is a list of lines whose labelled lines are the field lines, in
order. The lines between do not begin with a label, and `step_unlabelled` says
that they are nothing to the reader. What is left is one step for each field
line, and `fields_run` is the run over any number of them.

Numbers are read exactly; a digit is any decimal digit of Unicode.

## Main definitions

* `digitValue`: The value of a digit.
* `floatOf`: `float` of a decimal numeral.
* `Label`: What the reader looks for at the beginning of a line.
* `ParseState`: The variables of the loop.
* `ParseState.step`: The body of the loop.
* `parseOutput`: `parse_output`.
* `Printed`: What a report prints.
* `Layout`: How it spaces and ends its lines.
* `fieldLines`: Its field lines.
* `IsReport`: A list of lines is a report.

## Theorems

* `step_unlabelled`: Other lines are passed over.
* `fields_run`: What the reader knows after some field lines.
* `parse_cut`: What comes of a report that is cut off.
* `parse_whole`: What comes of a complete one.
* `parse_fatal`: A fatal line is noticed anywhere.
-/

namespace Xbench

namespace Sysbench

open Regex

/-- The zeros among the decimal digits of Unicode; nine digits follow each. -/
def digitZeros : List Nat :=
  [0x30, 0x660, 0x6f0, 0x7c0, 0x966, 0x9e6, 0xa66, 0xae6, 0xb66, 0xbe6, 0xc66, 0xce6, 0xd66,
    0xde6, 0xe50, 0xed0, 0xf20, 0x1040, 0x1090, 0x17e0, 0x1810, 0x1946, 0x19d0, 0x1a80, 0x1a90,
    0x1b50, 0x1bb0, 0x1c40, 0x1c50, 0xa620, 0xa8d0, 0xa900, 0xa9d0, 0xa9f0, 0xaa50, 0xabf0,
    0xff10, 0x104a0, 0x10d30, 0x11066, 0x110f0, 0x11136, 0x111d0, 0x112f0, 0x11450, 0x114d0,
    0x11650, 0x116c0, 0x11730, 0x118e0, 0x11950, 0x11c50, 0x11d50, 0x11da0, 0x16a60, 0x16ac0,
    0x16b50, 0x1d7ce, 0x1d7d8, 0x1d7e2, 0x1d7ec, 0x1d7f6, 0x1e140, 0x1e2f0, 0x1e950, 0x1fbf0]

/-- The value of a decimal digit. -/
def digitValue (c : Char) : Option Nat :=
  (digitZeros.find? (fun z => z ≤ c.toNat && c.toNat < z + 10)).map (fun z => c.toNat - z)

/-- `\d`. -/
def isDecimal (c : Char) : Bool :=
  (digitValue c).isSome

/-- The number a list of digits writes. -/
def natOf (cs : List Char) : Nat :=
  cs.foldl (fun n c => 10 * n + (digitValue c).getD 0) 0

/-- `float` of digits, or of digits with a point among them. -/
def floatOf (cs : List Char) : Rat :=
  let whole := cs.takeWhile (fun c => c != '.')
  let fraction := (cs.dropWhile (fun c => c != '.')).drop 1
  (natOf whole : Rat) + (natOf fraction : Rat) / 10 ^ fraction.length

inductive SysbenchExn where
  | fatal (line : String)
  | outputParse (message : String)
deriving DecidableEq

/-- What the reader looks for at the beginning of a line. -/
inductive Label where
  | fatal
  | segmentationFault
  | sqlStatistics
  | latency
  | histogram
  | threads
  | transactions
  | queries
  | ignoredErrors
  | percentile
  | sum
deriving DecidableEq

def Label.text : Label → List Char
  | .fatal => "FATAL:".toList
  | .segmentationFault => "Segmentation fault".toList
  | .sqlStatistics => "SQL statistics:".toList
  | .latency => "Latency (ms):".toList
  | .histogram => "Histogram latency".toList
  | .threads => "Number of threads".toList
  | .transactions => "transactions:".toList
  | .queries => "queries:".toList
  | .ignoredErrors => "ignored errors:".toList
  | .percentile => "95th".toList
  | .sum => "sum:".toList

def Label.all : List Label :=
  [.fatal, .segmentationFault, .sqlStatistics, .latency, .histogram, .threads, .transactions,
    .queries, .ignoredErrors, .percentile, .sum]

/-- `line.startswith(...)`. -/
def starts (l : Label) (line : List Char) : Bool :=
  l.text.isPrefixOf line

/-- A line that begins with a label. -/
def labelled (line : List Char) : Bool :=
  Label.all.any (fun l => starts l line)

section Patterns

/-- `\d+`. -/
def digits : Regex := .plus isDecimal

/-- `\d+\.\d+`. -/
def decimal : Regex := inTurn [digits, .lit ['.'], digits]

/-- `\s+`. -/
def spaces : Regex := .plus Text.isSpace

/-- `\s+ `, with a blank behind. -/
def wideGap : Regex := .seq spaces (.lit [' '])

def histogramPattern : Regex :=
  inTurn [.lit "Histogram latency (avg/stddev): ".toList, .group decimal, .lit " / ".toList,
    .group decimal]

def threadsPattern : Regex :=
  inTurn [.lit "Number of threads: ".toList, .group digits]

def transactionsPattern : Regex :=
  inTurn [.lit "transactions:".toList, wideGap, .group digits, spaces, .lit ['('],
    .group decimal]

def queriesPattern : Regex :=
  inTurn [.lit "queries:".toList, wideGap, digits, spaces, .lit ['('], .group decimal]

def ignoredErrorsPattern : Regex :=
  inTurn [.lit "ignored errors:".toList, wideGap, .group digits]

def percentilePattern : Regex :=
  inTurn [.lit "95th percentile:".toList, spaces, .group decimal]

def sumPattern : Regex :=
  inTurn [.lit "sum:".toList, wideGap, .group decimal]

end Patterns

/-- `float(m.group(i + 1)) if m is not None else 0`. -/
def groupOr0 (m : Option Reading) (i : Nat) : Rat :=
  match m with
  | some m => floatOf (m.groups.getD i [])
  | none => 0

/-- The variables of the loop. -/
structure ParseState where
  seenSqlStatistics : Bool
  seenLatency : Bool
  thds : Rat
  tps : Rat
  qps : Rat
  avg : Rat
  stddev : Rat
  transactions : Rat
  totalResponseTime : Rat
  p95Latency : Rat
  errors : Rat
deriving DecidableEq

namespace ParseState

def init : ParseState :=
  ⟨false, false, 0, 0, 0, 0, 0, 0, 0, 0, 0⟩

variable (s : ParseState) (line : List Char)

/-- Whether a section begins. -/
def sections : ParseState :=
  if starts .sqlStatistics line then { s with seenSqlStatistics := true }
  else if starts .latency line then { s with seenLatency := true }
  else s

def readHistogram : ParseState :=
  if starts .histogram line then
    let m := histogramPattern.first line
    { s with avg := groupOr0 m 0, stddev := groupOr0 m 1 }
  else s

def readThreads : ParseState :=
  if !s.seenSqlStatistics then
    if starts .threads line then { s with thds := groupOr0 (threadsPattern.first line) 0 }
    else s
  else s

def readStatistics : ParseState :=
  if s.seenSqlStatistics && !s.seenLatency then
    if starts .transactions line then
      let m := transactionsPattern.first line
      { s with transactions := groupOr0 m 0, tps := groupOr0 m 1 }
    else if starts .queries line then
      { s with qps := groupOr0 (queriesPattern.first line) 0 }
    else if starts .ignoredErrors line then
      { s with errors := groupOr0 (ignoredErrorsPattern.first line) 0 }
    else s
  else s

/-- The pattern of the sum is the one that may be found inside the line. -/
def readLatency : ParseState :=
  if s.seenLatency then
    if starts .percentile line then
      { s with p95Latency := groupOr0 (percentilePattern.first line) 0 }
    else if starts .sum line then
      { s with totalResponseTime := groupOr0 (sumPattern.search line) 0 }
    else s
  else s

/-- The body of the loop. -/
def step : Except SysbenchExn ParseState :=
  if starts .fatal line || starts .segmentationFault line then
    .error (.fatal (String.ofList line))
  else
    .ok (((((s.sections line).readHistogram line).readThreads line).readStatistics line).readLatency
      line)

end ParseState

/-- What `parse_output` returns. -/
structure SysbenchResult where
  thds : Rat
  tps : Rat
  qps : Rat
  stddev : Rat
  transactions : Rat
  totalResponseTime : Rat
  p95Latency : Rat
  errors : Rat
deriving DecidableEq

def ParseState.result (s : ParseState) : SysbenchResult :=
  ⟨s.thds, s.tps, s.qps, s.stddev, s.transactions, s.totalResponseTime, s.p95Latency, s.errors⟩

def tpsIsZero : SysbenchExn :=
  .outputParse "TPS is zero in Sysbench output. Did sysbench crash?"

/-- `parse_output`. Every group is looked at after the match, so the handler of
    `AttributeError` has nothing to catch. -/
def parseOutput (sysbenchOutput : String) : Except SysbenchExn SysbenchResult := do
  let s ← (Text.lineList sysbenchOutput.toList).foldlM ParseState.step ParseState.init
  if ¬ 0 < s.tps then .error tpsIsZero
  else .ok s.result

section Printed

/-- A numeral, possibly with leading zeros. -/
structure Digits where
  ds : List (Fin 10)
  ne : ds ≠ []
deriving DecidableEq

def digitChar (d : Fin 10) : Char :=
  Char.ofNat (48 + d)

def Digits.text (n : Digits) : List Char :=
  n.ds.map digitChar

def Digits.value (n : Digits) : Nat :=
  n.ds.foldl (fun m (d : Fin 10) => 10 * m + d.val) 0

/-- A numeral with a point. -/
structure Decimal where
  whole : Digits
  fraction : Digits
deriving DecidableEq

def Decimal.text (x : Decimal) : List Char :=
  x.whole.text ++ '.' :: x.fraction.text

def Decimal.value (x : Decimal) : Rat :=
  x.whole.value + (x.fraction.value : Rat) / 10 ^ x.fraction.ds.length

/-- What a report prints. -/
structure Printed where
  threads : Digits
  avg : Decimal
  stddev : Decimal
  transactions : Digits
  tps : Decimal
  queries : Digits
  qps : Decimal
  ignoredErrors : Digits
  percentile : Decimal
  sum : Decimal
deriving DecidableEq

/-- What follows a number on its line. -/
structure Tail where
  cs : List Char
  noDigit : ∀ c ∈ cs.head?, isDecimal c = false
  noNewline : '\n' ∉ cs

/-- The blanks before the first number of a line and before its rate, one or
    two more than the given ones, and what follows the numbers. -/
structure Layout where
  gap : Label → Nat
  rateGap : Label → Nat
  tail : Label → Tail

def blanks (n : Nat) : List Char :=
  List.replicate n ' '

/-- What follows the numbers of a line. -/
def Layout.end (lay : Layout) (l : Label) : List Char :=
  (lay.tail l).cs

section FieldLines

variable (v : Printed) (lay : Layout)

def threadsLine : List Char :=
  "Number of threads: ".toList ++ (v.threads.text ++ lay.end .threads)

def histogramLine : List Char :=
  "Histogram latency (avg/stddev): ".toList
    ++ (v.avg.text ++ (" / ".toList ++ (v.stddev.text ++ lay.end .histogram)))

/-- The line of a number with its rate. -/
def rateLine (l : Label) (count : Digits) (rate : Decimal) : List Char :=
  l.text ++ (blanks (lay.gap l + 2) ++ (count.text
    ++ (blanks (lay.rateGap l + 1) ++ (['('] ++ (rate.text ++ lay.end l)))))

def ignoredErrorsLine : List Char :=
  Label.ignoredErrors.text ++ (blanks (lay.gap .ignoredErrors + 2)
    ++ (v.ignoredErrors.text ++ lay.end .ignoredErrors))

def percentileLine : List Char :=
  "95th percentile:".toList
    ++ (blanks (lay.gap .percentile + 1) ++ (v.percentile.text ++ lay.end .percentile))

def sumLine : List Char :=
  Label.sum.text ++ (blanks (lay.gap .sum + 2) ++ (v.sum.text ++ lay.end .sum))

/-- The line that begins a section. -/
def headLine (l : Label) : List Char :=
  l.text ++ lay.end l

end FieldLines

/-- The field lines, in sysbench's order. -/
def fieldLines (v : Printed) (lay : Layout) : List (List Char) :=
  [threadsLine v lay, histogramLine v lay, headLine lay .sqlStatistics,
    rateLine lay .transactions v.transactions v.tps, rateLine lay .queries v.queries v.qps,
    ignoredErrorsLine v lay, headLine lay .latency, percentileLine v lay, sumLine v lay]

/-- A report: lines whose labelled ones are the field lines. -/
structure IsReport (v : Printed) (lay : Layout) (lines : List (List Char)) : Prop where
  fields : lines.filter labelled = fieldLines v lay
  noNewline : ∀ line ∈ lines, '\n' ∉ line

/-- The text of a list of lines. -/
def textOf (lines : List (List Char)) : String :=
  String.ofList (lines.flatMap (fun line => line ++ ['\n']))

/-- The values a report prints. -/
def Printed.result (v : Printed) : SysbenchResult where
  thds := v.threads.value
  tps := v.tps.value
  qps := v.qps.value
  stddev := v.stddev.value
  transactions := v.transactions.value
  totalResponseTime := v.sum.value
  p95Latency := v.percentile.value
  errors := v.ignoredErrors.value

/-- What is known after some field lines. -/
def Printed.upto (v : Printed) (j : Nat) : ParseState where
  seenSqlStatistics := decide (3 ≤ j)
  seenLatency := decide (7 ≤ j)
  thds := if 1 ≤ j then v.threads.value else 0
  tps := if 4 ≤ j then v.tps.value else 0
  qps := if 5 ≤ j then v.qps.value else 0
  avg := if 2 ≤ j then v.avg.value else 0
  stddev := if 2 ≤ j then v.stddev.value else 0
  transactions := if 4 ≤ j then v.transactions.value else 0
  totalResponseTime := if 9 ≤ j then v.sum.value else 0
  p95Latency := if 8 ≤ j then v.percentile.value else 0
  errors := if 6 ≤ j then v.ignoredErrors.value else 0

end Printed

section Numerals

theorem digitValue_digitChar (d : Fin 10) : digitValue (digitChar d) = some d.val := by
  revert d
  decide

theorem isDecimal_digitChar (d : Fin 10) : isDecimal (digitChar d) = true := by
  rw [isDecimal, digitValue_digitChar]
  rfl

/-- A digit is no blank and no point. -/
theorem digitChar_plain (d : Fin 10) :
    Text.isSpace (digitChar d) = false ∧ (digitChar d != '.') = true := by
  revert d
  decide

theorem natOf_text (n : Digits) : natOf n.text = n.value := by
  rw [natOf, Digits.text, Digits.value, List.foldl_map]
  refine congrArg (fun f => n.ds.foldl f 0) (funext fun m => funext fun d => ?_)
  rw [digitValue_digitChar]
  rfl

theorem mem_text (n : Digits) (c : Char) (hc : c ∈ n.text) : ∃ d, c = digitChar d := by
  rcases List.mem_map.mp hc with ⟨d, _, rfl⟩
  exact ⟨d, rfl⟩

theorem text_ne_nil (n : Digits) : n.text ≠ [] := by
  rw [Digits.text, ne_eq, List.map_eq_nil_iff]
  exact n.ne

theorem takeWhile_text (n : Digits) :
    n.text.takeWhile (fun c => c != '.') = n.text
      ∧ n.text.dropWhile (fun c => c != '.') = [] := by
  have hall : ∀ c ∈ n.text, (c != '.') = true := by
    intro c hc
    rcases mem_text n c hc with ⟨d, rfl⟩
    exact (digitChar_plain d).2
  exact ⟨List.takeWhile_eq_self_iff.mpr hall, List.dropWhile_eq_nil_iff.mpr hall⟩

/-- Reading a numeral gives its value. -/
theorem floatOf_digits (n : Digits) : floatOf n.text = n.value := by
  rcases takeWhile_text n with ⟨htake, hdrop⟩
  rw [floatOf, htake, hdrop, natOf_text]
  simp [natOf]

theorem floatOf_decimal (x : Decimal) : floatOf x.text = x.value := by
  have hall : ∀ c ∈ x.whole.text, (c != '.') = true := by
    intro c hc
    rcases mem_text x.whole c hc with ⟨d, rfl⟩
    exact (digitChar_plain d).2
  have htake : x.text.takeWhile (fun c => c != '.') = x.whole.text := by
    rw [Decimal.text, List.takeWhile_append_of_pos hall, List.takeWhile_cons_of_neg (by decide),
      List.append_nil]
  have hdrop : x.text.dropWhile (fun c => c != '.') = '.' :: x.fraction.text := by
    rw [Decimal.text, List.dropWhile_append_of_pos hall, List.dropWhile_cons_of_neg (by decide)]
  rw [floatOf, htake, hdrop, List.drop_one, List.tail_cons, natOf_text, natOf_text, Decimal.value,
    Digits.text, List.length_map]

end Numerals

section Reading

variable (rest : List Char)

theorem reads_digits (n : Digits) (h : ∀ c ∈ rest.head?, isDecimal c = false) :
    Reads digits n.text [] rest := by
  refine reads_plus isDecimal rest n.text ?_ (text_ne_nil n) h
  intro c hc
  rcases mem_text n c hc with ⟨d, rfl⟩
  exact isDecimal_digitChar d

theorem reads_decimal (x : Decimal) (h : ∀ c ∈ rest.head?, isDecimal c = false) :
    Reads decimal x.text [] rest := by
  have hpoint : ∀ c ∈ ('.' :: x.fraction.text ++ rest).head?, isDecimal c = false := by
    intro c hc
    rw [← Option.some.inj hc]
    decide
  have hfraction := reads_seq digits (inTurn []) rest x.fraction.text [] [] []
    (reads_digits _ x.fraction h) (reads_inTurn_nil rest)
  have hrest := reads_seq (.lit ['.']) (inTurn [digits]) rest ['.'] (x.fraction.text ++ []) [] []
    (reads_lit _ ['.']) hfraction
  rw [List.append_nil] at hrest
  exact reads_seq digits (inTurn [.lit ['.'], digits]) rest x.whole.text
    ('.' :: x.fraction.text) [] [] (reads_digits _ x.whole hpoint) hrest

theorem blanks_space (n : Nat) : ∀ c ∈ blanks n, Text.isSpace c = true := by
  intro c hc
  rw [List.eq_of_mem_replicate hc]
  decide

theorem reads_spaces (n : Nat) (h : ∀ c ∈ rest.head?, Text.isSpace c = false) :
    Reads spaces (blanks (n + 1)) [] rest :=
  reads_plus Text.isSpace rest (blanks (n + 1)) (blanks_space (n + 1)) (by simp [blanks]) h

theorem reads_wideGap (n : Nat) (h : ∀ c ∈ rest.head?, Text.isSpace c = false) :
    Reads wideGap (blanks (n + 2)) [] rest := by
  have hsplit : blanks (n + 2) = blanks (n + 1) ++ [' '] := List.replicate_succ'
  rw [hsplit]
  exact reads_plus_lit Text.isSpace rest (blanks (n + 1)) ' ' (blanks_space (n + 1)) (by decide)
    (by simp [blanks]) h

/-- A numeral begins with a digit, so a gap ends before it. -/
theorem text_no_space (n : Digits) (y cs : List Char) :
    ∀ c ∈ ((n.text ++ y) ++ cs).head?, Text.isSpace c = false := by
  intro c hc
  cases hds : n.ds with
  | nil => exact absurd hds n.ne
  | cons d ds =>
      rw [Digits.text, hds] at hc
      rw [← Option.some.inj hc]
      exact (digitChar_plain d).1

theorem digits_no_space (n : Digits) (cs : List Char) :
    ∀ c ∈ (n.text ++ cs).head?, Text.isSpace c = false := by
  have h := text_no_space n [] cs
  rw [List.append_nil] at h
  exact h

theorem decimal_no_space (x : Decimal) (cs : List Char) :
    ∀ c ∈ (x.text ++ cs).head?, Text.isSpace c = false := by
  exact text_no_space x.whole _ cs

theorem tail_stop (t : Tail) : ∀ c ∈ (t.cs ++ ['\n']).head?, isDecimal c = false := by
  intro c hc
  cases hcs : t.cs with
  | nil =>
      rw [hcs] at hc
      rw [← Option.some.inj hc]
      decide
  | cons d cs =>
      rw [hcs] at hc
      refine t.noDigit c ?_
      rw [hcs]
      exact hc

/-- What a number read off a line is. -/
theorem groupOr0_reads (r pattern : Regex) (x line : List Char) (g : List (List Char))
    (h : r.Reads x g rest) (hpattern : pattern = r) (hline : line = x ++ rest) (i : Nat)
    (y : List Char) (hy : g[i]? = some y) : groupOr0 (pattern.first line) i = floatOf y := by
  rw [hpattern, hline, h, groupOr0, List.getD_eq_getElem?_getD, hy]
  rfl

end Reading

section Lines

variable (v : Printed) (lay : Layout)

theorem threads_read :
    groupOr0 (threadsPattern.first (threadsLine v lay ++ ['\n'])) 0 = v.threads.value := by
  have hstop := tail_stop (lay.tail .threads)
  have hthreads := (reads_group _ _ _ _ (reads_digits _ v.threads hstop)).last
  have hall := (reads_lit _ "Number of threads: ".toList).cons hthreads
  rw [← floatOf_digits]
  refine groupOr0_reads _ _ _ _ _ _ hall rfl ?_ 0 _ rfl
  unfold threadsLine Layout.end
  simp only [List.append_assoc]

theorem histogram_read :
    groupOr0 (histogramPattern.first (histogramLine v lay ++ ['\n'])) 0 = v.avg.value
      ∧ groupOr0 (histogramPattern.first (histogramLine v lay ++ ['\n'])) 1
        = v.stddev.value := by
  have hstop := tail_stop (lay.tail .histogram)
  have hstddev := (reads_group _ _ _ _ (reads_decimal _ v.stddev hstop)).last
  have hslash := (reads_lit _ " / ".toList).cons hstddev
  have havg := (reads_group _ _ _ _ (reads_decimal _ v.avg
    (fun c hc => by rw [← Option.some.inj hc]; decide))).cons hslash
  have hall := (reads_lit _ "Histogram latency (avg/stddev): ".toList).cons havg
  rw [← floatOf_decimal, ← floatOf_decimal]
  refine ⟨groupOr0_reads _ _ _ _ _ _ hall rfl ?_ 0 _ rfl,
    groupOr0_reads _ _ _ _ _ _ hall rfl ?_ 1 _ rfl⟩
  · unfold histogramLine Layout.end
    simp only [List.append_assoc]
  · unfold histogramLine Layout.end
    simp only [List.append_assoc]

/-- A gap follows the count of a line, and a parenthesis its second gap. -/
theorem rate_reads (l : Label) (x : Decimal) :
    (inTurn [spaces, .lit ['('], .group decimal]).Reads
      (blanks (lay.rateGap l + 1) ++ (['('] ++ x.text)) [x.text] (lay.end l ++ ['\n']) := by
  have hrate := (reads_group _ _ _ _ (reads_decimal _ x (tail_stop (lay.tail l)))).last
  have hparen := (reads_lit _ ['(']).cons hrate
  exact (reads_spaces _ (lay.rateGap l)
    (fun c hc => by rw [← Option.some.inj hc]; decide)).cons hparen

/-- The second gap begins with a blank. -/
theorem blanks_no_digit (n : Nat) (y cs : List Char) :
    ∀ c ∈ ((blanks (n + 1) ++ y) ++ cs).head?, isDecimal c = false := by
  intro c hc
  rw [← Option.some.inj hc]
  decide

theorem transactions_read (n : Digits) (x : Decimal) :
    groupOr0 (transactionsPattern.first (rateLine lay .transactions n x ++ ['\n'])) 0 = n.value
      ∧ groupOr0 (transactionsPattern.first (rateLine lay .transactions n x ++ ['\n'])) 1
        = x.value := by
  have hcount := (reads_group _ _ _ _ (reads_digits _ n (blanks_no_digit _ _ _))).cons
    (rate_reads lay .transactions x)
  have hgap := (reads_wideGap _ (lay.gap .transactions) (text_no_space n _ _)).cons hcount
  have hall := (reads_lit _ "transactions:".toList).cons hgap
  rw [← floatOf_digits, ← floatOf_decimal]
  refine ⟨groupOr0_reads _ _ _ _ _ _ hall rfl ?_ 0 _ rfl,
    groupOr0_reads _ _ _ _ _ _ hall rfl ?_ 1 _ rfl⟩
  · unfold rateLine Label.text
    simp only [List.append_assoc]
  · unfold rateLine Label.text
    simp only [List.append_assoc]

theorem queries_read (n : Digits) (x : Decimal) :
    groupOr0 (queriesPattern.first (rateLine lay .queries n x ++ ['\n'])) 0 = x.value := by
  have hcount := (reads_digits _ n (blanks_no_digit _ _ _)).cons (rate_reads lay .queries x)
  have hgap := (reads_wideGap _ (lay.gap .queries) (text_no_space n _ _)).cons hcount
  have hall := (reads_lit _ "queries:".toList).cons hgap
  rw [← floatOf_decimal]
  refine groupOr0_reads _ _ _ _ _ _ hall rfl ?_ 0 _ rfl
  unfold rateLine Label.text
  simp only [List.append_assoc]

theorem ignoredErrors_read :
    groupOr0 (ignoredErrorsPattern.first (ignoredErrorsLine v lay ++ ['\n'])) 0
      = v.ignoredErrors.value := by
  have hcount := (reads_group _ _ _ _ (reads_digits _ v.ignoredErrors
    (tail_stop (lay.tail .ignoredErrors)))).last
  have hgap := (reads_wideGap _ (lay.gap .ignoredErrors) (digits_no_space _ _)).cons hcount
  have hall := (reads_lit _ "ignored errors:".toList).cons hgap
  rw [← floatOf_digits]
  refine groupOr0_reads _ _ _ _ _ _ hall rfl ?_ 0 _ rfl
  unfold ignoredErrorsLine Label.text Layout.end
  simp only [List.append_assoc]

theorem percentile_read :
    groupOr0 (percentilePattern.first (percentileLine v lay ++ ['\n'])) 0
      = v.percentile.value := by
  have hvalue := (reads_group _ _ _ _ (reads_decimal _ v.percentile
    (tail_stop (lay.tail .percentile)))).last
  have hgap := (reads_spaces _ (lay.gap .percentile) (decimal_no_space _ _)).cons hvalue
  have hall := (reads_lit _ "95th percentile:".toList).cons hgap
  rw [← floatOf_decimal]
  refine groupOr0_reads _ _ _ _ _ _ hall rfl ?_ 0 _ rfl
  unfold percentileLine Layout.end
  simp only [List.append_assoc]

/-- The sum is found where the line begins. -/
theorem sum_read :
    groupOr0 (sumPattern.search (sumLine v lay ++ ['\n'])) 0 = v.sum.value := by
  have hvalue := (reads_group _ _ _ _ (reads_decimal _ v.sum (tail_stop (lay.tail .sum)))).last
  have hgap := (reads_wideGap _ (lay.gap .sum) (decimal_no_space _ _)).cons hvalue
  have hall : sumPattern.Reads _ _ _ := (reads_lit _ "sum:".toList).cons hgap
  have hline : sumLine v lay ++ ['\n']
      = ("sum:".toList ++ (blanks (lay.gap .sum + 2) ++ v.sum.text))
        ++ ((lay.tail .sum).cs ++ ['\n']) := by
    unfold sumLine Label.text Layout.end
    simp only [List.append_assoc]
  rw [hline, search_of_first _ _ _ hall, ← floatOf_decimal]
  rfl

end Lines

section Steps

theorem starts_self (l : Label) (rest : List Char) : starts l (l.text ++ rest) = true :=
  List.isPrefixOf_iff_prefix.mpr (List.prefix_append l.text rest)

/-- A line begins with one label only. -/
theorem starts_other (l o : Label) (rest : List Char) (h : l ≠ o) :
    starts l (o.text ++ rest) = false := by
  cases l <;> cases o <;> first | exact absurd rfl h | rfl

/-- What a line begins with, when it begins with a label. -/
theorem starts_eq (o : Label) (line rest : List Char) (h : line = o.text ++ rest) (l : Label) :
    starts l line = decide (l = o) := by
  rw [h]
  by_cases hl : l = o
  · rw [hl, starts_self, decide_eq_true rfl]
  · rw [starts_other l o rest hl, decide_eq_false hl]

variable (v : Printed) (lay : Layout)

theorem starts_threads (l : Label) :
    starts l (threadsLine v lay ++ ['\n']) = decide (l = .threads) :=
  starts_eq .threads _ (": ".toList ++ (v.threads.text ++ lay.end .threads) ++ ['\n']) rfl l

theorem starts_histogram (l : Label) :
    starts l (histogramLine v lay ++ ['\n']) = decide (l = .histogram) :=
  starts_eq .histogram _ (" (avg/stddev): ".toList ++ (v.avg.text ++ (" / ".toList
    ++ (v.stddev.text ++ lay.end .histogram))) ++ ['\n']) rfl l

theorem starts_head (o l : Label) : starts l (headLine lay o ++ ['\n']) = decide (l = o) :=
  starts_eq o _ (lay.end o ++ ['\n']) (List.append_assoc _ _ _) l

theorem starts_rate (o l : Label) (n : Digits) (x : Decimal) :
    starts l (rateLine lay o n x ++ ['\n']) = decide (l = o) :=
  starts_eq o _ _ (List.append_assoc _ _ _) l

theorem starts_ignoredErrors (l : Label) :
    starts l (ignoredErrorsLine v lay ++ ['\n']) = decide (l = .ignoredErrors) :=
  starts_eq .ignoredErrors _ _ (List.append_assoc _ _ _) l

theorem starts_percentile (l : Label) :
    starts l (percentileLine v lay ++ ['\n']) = decide (l = .percentile) :=
  starts_eq .percentile _ (" percentile:".toList ++ (blanks (lay.gap .percentile + 1)
    ++ (v.percentile.text ++ lay.end .percentile)) ++ ['\n']) rfl l

theorem starts_sum (l : Label) : starts l (sumLine v lay ++ ['\n']) = decide (l = .sum) :=
  starts_eq .sum _ _ (List.append_assoc _ _ _) l

open ParseState

theorem step_threads :
    (v.upto 0).step (threadsLine v lay ++ ['\n']) = .ok (v.upto 1) := by
  simp [step, sections, readHistogram, readThreads, readStatistics, readLatency, starts_threads,
    threads_read, Printed.upto]

theorem step_histogram :
    (v.upto 1).step (histogramLine v lay ++ ['\n']) = .ok (v.upto 2) := by
  simp [step, sections, readHistogram, readThreads, readStatistics, readLatency, starts_histogram,
    histogram_read, Printed.upto]

theorem step_sqlStatistics :
    (v.upto 2).step (headLine lay .sqlStatistics ++ ['\n']) = .ok (v.upto 3) := by
  simp [step, sections, readHistogram, readThreads, readStatistics, readLatency, starts_head,
    Printed.upto]

theorem step_transactions :
    (v.upto 3).step (rateLine lay .transactions v.transactions v.tps ++ ['\n'])
      = .ok (v.upto 4) := by
  simp [step, sections, readHistogram, readThreads, readStatistics, readLatency, starts_rate,
    transactions_read, Printed.upto]

theorem step_queries :
    (v.upto 4).step (rateLine lay .queries v.queries v.qps ++ ['\n']) = .ok (v.upto 5) := by
  simp [step, sections, readHistogram, readThreads, readStatistics, readLatency, starts_rate,
    queries_read, Printed.upto]

theorem step_ignoredErrors :
    (v.upto 5).step (ignoredErrorsLine v lay ++ ['\n']) = .ok (v.upto 6) := by
  simp [step, sections, readHistogram, readThreads, readStatistics, readLatency,
    starts_ignoredErrors, ignoredErrors_read, Printed.upto]

theorem step_latency :
    (v.upto 6).step (headLine lay .latency ++ ['\n']) = .ok (v.upto 7) := by
  simp [step, sections, readHistogram, readThreads, readStatistics, readLatency, starts_head,
    Printed.upto]

theorem step_percentile :
    (v.upto 7).step (percentileLine v lay ++ ['\n']) = .ok (v.upto 8) := by
  simp [step, sections, readHistogram, readThreads, readStatistics, readLatency,
    starts_percentile, percentile_read, Printed.upto]

theorem step_sum :
    (v.upto 8).step (sumLine v lay ++ ['\n']) = .ok (v.upto 9) := by
  simp [step, sections, readHistogram, readThreads, readStatistics, readLatency, starts_sum,
    sum_read, Printed.upto]

/-- One field line more. -/
theorem fields_step (j : Nat) (hj : j < (fieldLines v lay).length) :
    (v.upto j).step ((fieldLines v lay)[j] ++ ['\n']) = .ok (v.upto (j + 1)) := by
  have hcases : j < 9 := hj
  match j, hcases with
  | 0, _ => exact step_threads v lay
  | 1, _ => exact step_histogram v lay
  | 2, _ => exact step_sqlStatistics v lay
  | 3, _ => exact step_transactions v lay
  | 4, _ => exact step_queries v lay
  | 5, _ => exact step_ignoredErrors v lay
  | 6, _ => exact step_latency v lay
  | 7, _ => exact step_percentile v lay
  | 8, _ => exact step_sum v lay

end Steps

section Run

variable (v : Printed) (lay : Layout)

/-- The loop over lines that end in a newline. -/
def runLines (lines : List (List Char)) (s : ParseState) : Except SysbenchExn ParseState :=
  lines.foldlM (fun s line => s.step (line ++ ['\n'])) s

theorem runLines_append (lines lines' : List (List Char)) (s : ParseState) :
    runLines (lines ++ lines') s = runLines lines s >>= runLines lines' := by
  rw [runLines, List.foldlM_append]
  rfl

/-- What is known after some field lines. -/
theorem fields_run (j : Nat) (hj : j ≤ (fieldLines v lay).length) :
    runLines ((fieldLines v lay).take j) ParseState.init = .ok (v.upto j) := by
  induction j with
  | zero => rfl
  | succ j ih =>
      rw [List.take_succ_eq_append_getElem hj, runLines_append, ih (by omega)]
      change runLines [(fieldLines v lay)[j]] (v.upto j) = _
      rw [runLines, List.foldlM_cons, fields_step v lay j hj]
      rfl

/-- The newline of a line is not part of a label. -/
theorem starts_newline (l : Label) (line : List Char) :
    starts l (line ++ ['\n']) = starts l line := by
  have hno : '\n' ∉ l.text := by
    cases l <;> decide
  rw [Bool.eq_iff_iff, starts, starts, List.isPrefixOf_iff_prefix, List.isPrefixOf_iff_prefix,
    List.prefix_concat_iff]
  constructor
  · rintro (h | h)
    · exact absurd (h ▸ List.mem_append_right line List.mem_cons_self) hno
    · exact h
  · exact Or.inr

theorem starts_of_unlabelled (line : List Char) (h : labelled line = false) (l : Label) :
    starts l line = false := by
  have hmem : l ∈ Label.all := by
    cases l <;> decide
  exact Bool.eq_false_iff.mpr (List.any_eq_false.mp h l hmem)

/-- Other lines are passed over. -/
theorem step_unlabelled (s : ParseState) (line : List Char) (h : labelled line = false) :
    s.step (line ++ ['\n']) = .ok s := by
  simp [ParseState.step, ParseState.sections, ParseState.readHistogram, ParseState.readThreads,
    ParseState.readStatistics, ParseState.readLatency, starts_newline,
    starts_of_unlabelled line h]

/-- So only the labelled lines count. -/
theorem runLines_filter (lines : List (List Char)) (s : ParseState) :
    runLines lines s = runLines (lines.filter labelled) s := by
  induction lines generalizing s with
  | nil => rfl
  | cons line lines ih =>
      by_cases h : labelled line
      · rw [List.filter_cons_of_pos h, runLines, runLines, List.foldlM_cons, List.foldlM_cons]
        exact congrArg _ (funext fun t => ih t)
      · have hstep := step_unlabelled s line (by simpa using h)
        rw [List.filter_cons_of_neg h, ← ih s, runLines, List.foldlM_cons, hstep]
        rfl

theorem lineList_textOf (lines : List (List Char)) (h : ∀ line ∈ lines, '\n' ∉ line) :
    Text.lineList (textOf lines).toList = lines.map (fun line => line ++ ['\n']) := by
  rw [textOf, String.toList_ofList]
  induction lines with
  | nil => rfl
  | cons line lines ih =>
      rw [List.flatMap_cons, List.append_assoc, List.singleton_append,
        Text.lineList_line line _ (h line List.mem_cons_self),
        ih (fun l hl => h l (List.mem_cons_of_mem line hl)), List.map_cons]

/-- What is read off a text of lines. -/
theorem parse_textOf (lines : List (List Char)) (h : ∀ line ∈ lines, '\n' ∉ line) :
    parseOutput (textOf lines) = (do
      let s ← runLines lines ParseState.init
      if ¬ 0 < s.tps then .error tpsIsZero
      else .ok s.result) := by
  rw [parseOutput, lineList_textOf lines h, List.foldlM_map]
  rfl

/-- The field lines among the first lines of a report are the first ones. -/
theorem fields_of_take (lines : List (List Char)) (h : IsReport v lay lines) (k : Nat) :
    ∃ j ≤ (fieldLines v lay).length,
      (lines.take k).filter labelled = (fieldLines v lay).take j := by
  have hprefix := (List.take_prefix k lines).filter labelled
  rw [h.fields] at hprefix
  exact ⟨_, hprefix.length_le, List.prefix_iff_eq_take.mp hprefix⟩

/-- What comes of a report that is cut off, by the field lines that are left. -/
theorem parse_cut (lines : List (List Char)) (h : IsReport v lay lines) (k j : Nat)
    (hj : j ≤ (fieldLines v lay).length)
    (hfields : (lines.take k).filter labelled = (fieldLines v lay).take j) :
    parseOutput (textOf (lines.take k))
      = if ¬ 0 < (v.upto j).tps then .error tpsIsZero else .ok (v.upto j).result := by
  rw [parse_textOf _ (fun line hl => h.noNewline line (List.mem_of_mem_take hl)), runLines_filter,
    hfields, fields_run v lay j hj]
  rfl

/-- A fatal line. -/
def isFatal (line : List Char) : Bool :=
  starts .fatal line || starts .segmentationFault line

/-- A fatal line is noticed anywhere. -/
theorem parse_fatal (pre post : List (List Char)) (line : List Char)
    (h : IsReport v lay (pre ++ post)) (hfatal : isFatal line = true) (hline : '\n' ∉ line) :
    parseOutput (textOf (pre ++ line :: post))
      = .error (.fatal (String.ofList (line ++ ['\n']))) := by
  have hlines : ∀ l ∈ pre ++ line :: post, '\n' ∉ l := by
    intro l hl
    rcases List.mem_append.mp hl with hl | hl
    · exact h.noNewline l (List.mem_append_left post hl)
    · rcases List.mem_cons.mp hl with rfl | hl
      · exact hline
      · exact h.noNewline l (List.mem_append_right pre hl)
  rcases fields_of_take v lay (pre ++ post) h pre.length with ⟨j, hj, hfields⟩
  rw [List.take_left] at hfields
  have hpre : runLines pre ParseState.init = .ok (v.upto j) := by
    rw [runLines_filter, hfields, fields_run v lay j hj]
  have hstep : (v.upto j).step (line ++ ['\n'])
      = .error (.fatal (String.ofList (line ++ ['\n']))) := by
    rw [ParseState.step, starts_newline, starts_newline]
    exact if_pos hfatal
  rw [parse_textOf _ hlines, runLines_append, hpre]
  change (do
    let s ← runLines (line :: post) (v.upto j)
    if ¬ 0 < s.tps then .error tpsIsZero else .ok s.result) = _
  rw [runLines, List.foldlM_cons, hstep]
  rfl

/-- The sum is the last field line: where it is, all of them are. -/
theorem all_of_sum (j : Nat) (hj : j ≤ (fieldLines v lay).length)
    (hsum : sumLine v lay ∈ (fieldLines v lay).take j) : j = 9 := by
  by_contra hne
  have hlt : j ≤ 8 := by
    have : j ≤ 9 := hj
    omega
  have hearly := (List.take_subset_take_left (fieldLines v lay) hlt) hsum
  simp only [fieldLines, List.take_succ_cons, List.take_zero, List.mem_cons, List.not_mem_nil,
    or_false] at hearly
  have hstarts := starts_sum v lay .sum
  rcases hearly with he | he | he | he | he | he | he | he
  · rw [he, starts_threads] at hstarts
    cases hstarts
  · rw [he, starts_histogram] at hstarts
    cases hstarts
  · rw [he, starts_head] at hstarts
    cases hstarts
  · rw [he, starts_rate] at hstarts
    cases hstarts
  · rw [he, starts_rate] at hstarts
    cases hstarts
  · rw [he, starts_ignoredErrors] at hstarts
    cases hstarts
  · rw [he, starts_head] at hstarts
    cases hstarts
  · rw [he, starts_percentile] at hstarts
    cases hstarts

/-- A report that is cut off behind its last field line is read whole. -/
theorem parse_behind (lines : List (List Char)) (h : IsReport v lay lines) (k : Nat)
    (hsum : sumLine v lay ∈ lines.take k) (hrate : 0 < v.tps.value) :
    parseOutput (textOf (lines.take k)) = .ok v.result := by
  rcases fields_of_take v lay lines h k with ⟨j, hj, hfields⟩
  have hlabelled : labelled (sumLine v lay) = true := by
    refine List.any_eq_true.mpr ⟨.sum, by decide, ?_⟩
    rw [← starts_newline, starts_sum]
    rfl
  have hmem : sumLine v lay ∈ (fieldLines v lay).take j := by
    rw [← hfields]
    exact List.mem_filter.mpr ⟨hsum, hlabelled⟩
  have hall := all_of_sum v lay j hj hmem
  subst hall
  rw [parse_cut v lay lines h k 9 hj hfields]
  exact if_neg (not_not.mpr hrate)

/-- A complete report with a positive rate. -/
theorem parse_whole (lines : List (List Char)) (h : IsReport v lay lines)
    (hrate : 0 < v.tps.value) : parseOutput (textOf lines) = .ok v.result := by
  have hsum : sumLine v lay ∈ lines.take lines.length := by
    have hmem : sumLine v lay ∈ lines.filter labelled := by
      rw [h.fields]
      simp [fieldLines]
    rw [List.take_length]
    exact (List.mem_filter.mp hmem).1
  have hwhole := parse_behind v lay lines h lines.length hsum hrate
  rw [List.take_length] at hwhole
  exact hwhole

/-- The field lines are a report, with nothing between them. -/
theorem isReport_fieldLines : IsReport v lay (fieldLines v lay) := by
  have hdigits : ∀ n : Digits, '\n' ∉ n.text := by
    intro n hn
    rcases mem_text n _ hn with ⟨d, hd⟩
    have hne : ∀ d : Fin 10, '\n' ≠ digitChar d := by decide
    exact hne d hd
  have hdecimal : ∀ x : Decimal, '\n' ∉ x.text := by
    intro x hx
    rcases List.mem_append.mp hx with hx | hx
    · exact hdigits x.whole hx
    · rcases List.mem_cons.mp hx with hx | hx
      · exact absurd hx (by decide)
      · exact hdigits x.fraction hx
  have hblanks : ∀ n, '\n' ∉ blanks n := by
    intro n hn
    exact absurd (List.eq_of_mem_replicate hn) (by decide)
  have hend : ∀ l, '\n' ∉ lay.end l := fun l => (lay.tail l).noNewline
  have hlabel : ∀ l : Label, '\n' ∉ l.text := by
    intro l
    cases l <;> decide
  refine ⟨List.filter_eq_self.mpr (fun line hline => ?_), fun line hline => ?_⟩
  · -- Every field line begins with its label.
    have hany : ∀ l, starts l (line ++ ['\n']) = true → labelled line = true := by
      intro l hl
      rw [starts_newline] at hl
      exact List.any_eq_true.mpr ⟨l, by cases l <;> decide, hl⟩
    simp only [fieldLines, List.mem_cons, List.not_mem_nil, or_false] at hline
    rcases hline with rfl | rfl | rfl | rfl | rfl | rfl | rfl | rfl | rfl
    · exact hany .threads (by rw [starts_threads]; rfl)
    · exact hany .histogram (by rw [starts_histogram]; rfl)
    · exact hany .sqlStatistics (by rw [starts_head]; rfl)
    · exact hany .transactions (by rw [starts_rate]; rfl)
    · exact hany .queries (by rw [starts_rate]; rfl)
    · exact hany .ignoredErrors (by rw [starts_ignoredErrors]; rfl)
    · exact hany .latency (by rw [starts_head]; rfl)
    · exact hany .percentile (by rw [starts_percentile]; rfl)
    · exact hany .sum (by rw [starts_sum]; rfl)
  · have hliteral : '\n' ∉ "Number of threads: ".toList
        ∧ '\n' ∉ "Histogram latency (avg/stddev): ".toList ∧ '\n' ∉ " / ".toList
        ∧ '\n' ∉ "95th percentile:".toList ∧ '\n' ∉ ['('] := by decide
    rcases hliteral with ⟨hthreads, hhistogram, hslash, hpercentile, hparen⟩
    simp only [fieldLines, List.mem_cons, List.not_mem_nil, or_false] at hline
    rcases hline with rfl | rfl | rfl | rfl | rfl | rfl | rfl | rfl | rfl
    · unfold threadsLine
      simp only [List.mem_append, hthreads, hdigits, hend, or_self, not_false_eq_true]
    · unfold histogramLine
      simp only [List.mem_append, hhistogram, hdecimal, hslash, hend, or_self, not_false_eq_true]
    · unfold headLine
      simp only [List.mem_append, hlabel, hend, or_self, not_false_eq_true]
    · unfold rateLine
      simp only [List.mem_append, hlabel, hblanks, hdigits, hparen, hdecimal, hend, or_self,
        not_false_eq_true]
    · unfold rateLine
      simp only [List.mem_append, hlabel, hblanks, hdigits, hparen, hdecimal, hend, or_self,
        not_false_eq_true]
    · unfold ignoredErrorsLine
      simp only [List.mem_append, hlabel, hblanks, hdigits, hend, or_self, not_false_eq_true]
    · unfold headLine
      simp only [List.mem_append, hlabel, hend, or_self, not_false_eq_true]
    · unfold percentileLine
      simp only [List.mem_append, hpercentile, hblanks, hdecimal, hend, or_self,
        not_false_eq_true]
    · unfold sumLine
      simp only [List.mem_append, hlabel, hblanks, hdecimal, hend, or_self, not_false_eq_true]

end Run

/-- What comes of a report, whole or cut off or with a fatal line in it. A
    report that is cut off behind the rate and before the sum is left out. -/
structure ParsedOrRejected (v : Printed) (lay : Layout) (lines : List (List Char)) : Prop where
  exact : 0 < v.tps.value → parseOutput (textOf lines) = .ok v.result
  zeroRate : ¬ 0 < v.tps.value → ∀ k, parseOutput (textOf (lines.take k)) = .error tpsIsZero
  cutBefore : ∀ k, rateLine lay .transactions v.transactions v.tps ∉ lines.take k →
    parseOutput (textOf (lines.take k)) = .error tpsIsZero
  cutBehind : ∀ k, sumLine v lay ∈ lines.take k → 0 < v.tps.value →
    parseOutput (textOf (lines.take k)) = .ok v.result
  fatal : ∀ pre post line, lines = pre ++ post → isFatal line = true → '\n' ∉ line →
    parseOutput (textOf (pre ++ line :: post))
      = .error (.fatal (String.ofList (line ++ ['\n'])))

end Sysbench

open Sysbench

/-- A report with a positive rate is parsed exactly, one without is rejected,
    and a fatal line is noticed anywhere. -/
theorem report_parsed_or_rejected (v : Printed) (lay : Layout) (lines : List (List Char))
    (h : IsReport v lay lines) : ParsedOrRejected v lay lines := by
  refine ⟨fun hrate => parse_whole v lay lines h hrate, ?_, ?_,
    fun k hsum hrate => parse_behind v lay lines h k hsum hrate, ?_⟩
  · intro hrate k
    rcases fields_of_take v lay lines h k with ⟨j, hj, hfields⟩
    rw [parse_cut v lay lines h k j hj hfields, if_pos]
    by_cases h4 : 4 ≤ j
    · simpa only [Printed.upto, if_pos h4] using hrate
    · simp only [Printed.upto, if_neg h4, lt_self_iff_false, not_false_eq_true]
  · intro k hrate
    rcases fields_of_take v lay lines h k with ⟨j, hj, hfields⟩
    have h4 : ¬ 4 ≤ j := by
      intro h4
      have hmem : rateLine lay .transactions v.transactions v.tps ∈ (fieldLines v lay).take j :=
        (List.take_subset_take_left (fieldLines v lay) h4) (by simp [fieldLines])
      rw [← hfields] at hmem
      exact hrate (List.mem_filter.mp hmem).1
    rw [parse_cut v lay lines h k j hj hfields, if_pos]
    simp only [Printed.upto, if_neg h4, lt_self_iff_false, not_false_eq_true]
  · rintro pre post line rfl hfatal hline
    exact parse_fatal v lay pre post line h hfatal hline

namespace Sysbench

/-- A single digit. -/
def digit (d : Fin 10) : Digits :=
  ⟨[d], List.cons_ne_nil d []⟩

/-- A run of eight threads with the given rate. -/
def eightThreads (tps : Decimal) : Printed where
  threads := digit 8
  avg := ⟨digit 4, digit 2⟩
  stddev := ⟨digit 1, digit 5⟩
  transactions := ⟨[1, 2, 0], List.cons_ne_nil 1 [2, 0]⟩
  tps
  queries := ⟨[2, 4, 0, 0], List.cons_ne_nil 2 [4, 0, 0]⟩
  qps := ⟨digit 8, digit 0⟩
  ignoredErrors := digit 0
  percentile := ⟨digit 6, digit 1⟩
  sum := ⟨⟨[9, 6, 0], List.cons_ne_nil 9 [6, 0]⟩, digit 3⟩

theorem nothing_behind : ∀ c ∈ ([] : List Char).head?, isDecimal c = false := by
  intro c hc
  cases hc

/-- Lines without anything more than they need. -/
def plainLayout : Layout where
  gap := fun _ => 0
  rateGap := fun _ => 0
  tail := fun _ => ⟨[], nothing_behind, List.not_mem_nil⟩

end Sysbench

/-- A report that prints a rate of zero is not parsed, though every value is
    there. -/
theorem zero_rate_not_parsed :
    ¬ ∀ v lay lines, IsReport v lay lines → parseOutput (textOf lines) = .ok v.result := by
  intro hall
  let v := eightThreads ⟨digit 0, digit 0⟩
  have hreport := isReport_fieldLines v plainLayout
  have hfields : ((fieldLines v plainLayout).take 9).filter labelled
      = (fieldLines v plainLayout).take 9 := hreport.fields
  have hcut := parse_cut v plainLayout _ hreport 9 9 le_rfl hfields
  have hzero : ¬ 0 < (v.upto 9).tps := by
    simp [v, Printed.upto, eightThreads, Decimal.value, Digits.value, digit]
  have hparsed : parseOutput (textOf ((fieldLines v plainLayout).take 9)) = .ok v.result :=
    hall v plainLayout _ hreport
  rw [hparsed, if_pos hzero] at hcut
  cases hcut

theorem eight_threads_parsed :
    ParsedOrRejected (eightThreads ⟨digit 3, digit 7⟩) plainLayout
      (fieldLines (eightThreads ⟨digit 3, digit 7⟩) plainLayout) :=
  report_parsed_or_rejected _ _ _ (isReport_fieldLines _ _)

end Xbench
