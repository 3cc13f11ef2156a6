import ControlCenter.Library.Sha256

/-!
# The JSON scanner

`json.Valid` of the Go standard library runs a scanner over the bytes: a step state, and
a stack that says for each open composite value what the scanner is in. The scanner here
has the same states. The states inside `true`, `false` and `null` are one state that
carries the bytes still expected.

Bytes of 0x20 and above are accepted inside strings whatever their encoding, and more
than ten thousand open values are refused, as in the standard library.
-/

set_option autoImplicit false

namespace ControlCenter.Library.Json

/-- What the scanner is in, for one open composite value. -/
inductive ParseState where
  | objectKey
  | objectValue
  | arrayValue
  deriving DecidableEq

/-- What the next byte is read as. -/
inductive Step where
  | beginValueOrEmpty
  | beginValue
  | beginStringOrEmpty
  | beginString
  | endValue
  | endTop
  | inString
  | inStringEsc
  | inStringHex (remaining : Nat)
  | neg
  | digits
  | zero
  | dot
  | dotDigits
  | exponent
  | exponentSign
  | exponentDigits
  | literal (rest : Bytes)
  deriving DecidableEq

structure Scanner where
  step : Step
  parseState : List ParseState
  deriving DecidableEq

def maxNestingDepth : Nat := 10000

def isSpaceByte (c : UInt8) : Bool := c == 0x20 || c == 0x09 || c == 0x0d || c == 0x0a

def isDigitByte (c : UInt8) : Bool := 0x30 ≤ c && c ≤ 0x39

def isHexByte (c : UInt8) : Bool :=
  isDigitByte c || (0x61 ≤ c && c ≤ 0x66) || (0x41 ≤ c && c ≤ 0x46)

namespace Scanner

def start : Scanner := ⟨.beginValue, []⟩

def goto (s : Scanner) (step : Step) : Option Scanner := some { s with step := step }

/-- Open a composite value, unless too many are open. -/
def push (s : Scanner) (state : ParseState) (step : Step) : Option Scanner :=
  if s.parseState.length + 1 ≤ maxNestingDepth then
    some ⟨step, state :: s.parseState⟩
  else none

/-- After a complete value, with the byte that follows it. -/
def endValue (s : Scanner) (c : UInt8) : Option Scanner :=
  match s.parseState with
  | [] => if isSpaceByte c then s.goto .endTop else none
  | top :: rest =>
      if isSpaceByte c then s.goto .endValue
      else
        let pop : Option Scanner := some ⟨if rest.isEmpty then .endTop else .endValue, rest⟩
        match top with
        | .objectKey =>
            if c == ':'.toUInt8 then some ⟨.beginValue, .objectValue :: rest⟩ else none
        | .objectValue =>
            if c == ','.toUInt8 then some ⟨.beginString, .objectKey :: rest⟩
            else if c == '}'.toUInt8 then pop else none
        | .arrayValue =>
            if c == ','.toUInt8 then some ⟨.beginValue, .arrayValue :: rest⟩
            else if c == ']'.toUInt8 then pop else none

def beginValue (s : Scanner) (c : UInt8) : Option Scanner :=
  if isSpaceByte c then some s
  else if c == '{'.toUInt8 then s.push .objectKey .beginStringOrEmpty
  else if c == '['.toUInt8 then s.push .arrayValue .beginValueOrEmpty
  else if c == '"'.toUInt8 then s.goto .inString
  else if c == '-'.toUInt8 then s.goto .neg
  else if c == '0'.toUInt8 then s.goto .zero
  else if c == 't'.toUInt8 then s.goto (.literal [0x72, 0x75, 0x65])
  else if c == 'f'.toUInt8 then s.goto (.literal [0x61, 0x6c, 0x73, 0x65])
  else if c == 'n'.toUInt8 then s.goto (.literal [0x75, 0x6c, 0x6c])
  else if isDigitByte c then s.goto .digits
  else none

def beginString (s : Scanner) (c : UInt8) : Option Scanner :=
  if isSpaceByte c then some s
  else if c == '"'.toUInt8 then s.goto .inString
  else none

/-- The integer part of a number is complete. -/
def afterInteger (s : Scanner) (c : UInt8) : Option Scanner :=
  if c == '.'.toUInt8 then s.goto .dot
  else if c == 'e'.toUInt8 || c == 'E'.toUInt8 then s.goto .exponent
  else s.endValue c

def exponentSign (s : Scanner) (c : UInt8) : Option Scanner :=
  if isDigitByte c then s.goto .exponentDigits else none

/-- One byte. No scanner is left when the byte is an error. -/
def feed (s : Scanner) (c : UInt8) : Option Scanner :=
  match s.step with
  | .beginValueOrEmpty =>
      if isSpaceByte c then some s
      else if c == ']'.toUInt8 then s.endValue c
      else s.beginValue c
  | .beginValue => s.beginValue c
  | .beginStringOrEmpty =>
      if isSpaceByte c then some s
      else if c == '}'.toUInt8 then
        -- an empty object ends as if its last value had been read
        endValue { s with parseState := .objectValue :: s.parseState.tail } c
      else s.beginString c
  | .beginString => s.beginString c
  | .endValue => s.endValue c
  | .endTop => if isSpaceByte c then some s else none
  | .inString =>
      if c == '"'.toUInt8 then s.goto .endValue
      else if c == '\\'.toUInt8 then s.goto .inStringEsc
      else if c < 0x20 then none
      else some s
  | .inStringEsc =>
      if c == 'u'.toUInt8 then s.goto (.inStringHex 4)
      else if ("bfnrt\\/\"".toList.map Char.toUInt8).contains c then s.goto .inString
      else none
  | .inStringHex remaining =>
      if isHexByte c then
        s.goto (if remaining ≤ 1 then .inString else .inStringHex (remaining - 1))
      else none
  | .neg =>
      if c == '0'.toUInt8 then s.goto .zero
      else if isDigitByte c then s.goto .digits
      else none
  | .digits => if isDigitByte c then some s else s.afterInteger c
  | .zero => s.afterInteger c
  | .dot => if isDigitByte c then s.goto .dotDigits else none
  | .dotDigits =>
      if isDigitByte c then some s
      else if c == 'e'.toUInt8 || c == 'E'.toUInt8 then s.goto .exponent
      else s.endValue c
  | .exponent =>
      if c == '+'.toUInt8 || c == '-'.toUInt8 then s.goto .exponentSign else s.exponentSign c
  | .exponentSign => s.exponentSign c
  | .exponentDigits => if isDigitByte c then some s else s.endValue c
  | .literal [] => s.endValue c
  | .literal (expected :: rest) =>
      if c == expected then s.goto (if rest.isEmpty then .endValue else .literal rest) else none

/-- Feed all bytes. -/
def feedAll : Scanner → Bytes → Option Scanner
  | s, [] => some s
  | s, c :: rest => (s.feed c).bind fun s => feedAll s rest

end Scanner

/-- `json.Valid`: the bytes are one JSON value. The end of the data is fed as a space. -/
def valid (data : Bytes) : Bool :=
  ((Scanner.start.feedAll data).bind fun s => s.feed 0x20).any fun s => s.step == .endTop

/-- An object is accepted, and its key must be a string. -/
example : valid ("\x7b\"a\":[1,-0.5e3,true,null]\x7d ".toList.map Char.toUInt8) = true ∧
    valid ("\x7b1:2\x7d".toList.map Char.toUInt8) = false := by
  decide

/-! ## Zero bytes -/

/-- What the scanner still expects of a literal holds no zero byte. -/
def Scanner.Printable (s : Scanner) : Prop := ∀ rest, s.step = .literal rest → 0 ∉ rest

namespace Scanner

theorem printable_of_ne {s : Scanner} (plain : ∀ rest, s.step ≠ .literal rest) : s.Printable :=
  fun rest literal => absurd literal (plain rest)

/-- After a value no literal is open. -/
theorem endValue_printable {s s' : Scanner} {c : UInt8} (fed : s.endValue c = some s') :
    s'.Printable := by
  refine printable_of_ne fun rest => ?_
  unfold endValue goto at fed
  split at fed
  · split at fed <;> cases fed
    nofun
  · next top open_ _ =>
      split at fed
      · cases fed
        nofun
      · cases top with
        | objectKey =>
            dsimp only at fed
            split at fed <;> cases fed
            nofun
        | objectValue =>
            dsimp only at fed
            split at fed
            · cases fed
              nofun
            · split at fed <;> cases fed
              cases open_.isEmpty <;> nofun
        | arrayValue =>
            dsimp only at fed
            split at fed
            · cases fed
              nofun
            · split at fed <;> cases fed
              cases open_.isEmpty <;> nofun

theorem push_printable {s s' : Scanner} {state : ParseState} {step : Step}
    (plain : ∀ rest, step ≠ .literal rest) (fed : s.push state step = some s') :
    s'.Printable := by
  unfold push at fed
  split at fed <;> cases fed
  exact printable_of_ne plain

theorem beginValue_printable {s s' : Scanner} {c : UInt8} (printable : s.Printable)
    (fed : s.beginValue c = some s') : s'.Printable := by
  unfold beginValue goto at fed
  split at fed
  · cases fed
    exact printable
  split at fed
  · exact push_printable (by simp) fed
  split at fed
  · exact push_printable (by simp) fed
  repeat'
    split at fed
    · cases fed
      rintro rest ⟨⟩
      try decide
  cases fed

theorem goto_printable {s s' : Scanner} {step : Step} (plain : ∀ rest, step ≠ .literal rest)
    (fed : s.goto step = some s') : s'.Printable := by
  cases fed
  exact printable_of_ne plain

theorem beginString_printable {s s' : Scanner} {c : UInt8} (printable : s.Printable)
    (fed : s.beginString c = some s') : s'.Printable := by
  unfold beginString at fed
  split at fed
  · cases fed
    exact printable
  split at fed
  · exact goto_printable (by simp) fed
  · cases fed

theorem afterInteger_printable {s s' : Scanner} {c : UInt8} (fed : s.afterInteger c = some s') :
    s'.Printable := by
  unfold afterInteger at fed
  split at fed
  · exact goto_printable (by simp) fed
  split at fed
  · exact goto_printable (by simp) fed
  · exact endValue_printable fed

theorem exponentSign_printable {s s' : Scanner} {c : UInt8} (fed : s.exponentSign c = some s') :
    s'.Printable := by
  unfold exponentSign at fed
  split at fed
  · exact goto_printable (by simp) fed
  · cases fed

/-- The rest of a literal is a part of it. -/
theorem literal_printable {s s' : Scanner} {c : UInt8} {expected : Bytes}
    (printable : s.Printable) (step : s.step = .literal expected) (fed : s.feed c = some s') :
    s'.Printable := by
  unfold feed at fed
  rw [step] at fed
  cases expected with
  | nil => exact endValue_printable fed
  | cons first rest =>
      have free := printable _ step
      dsimp only at fed
      split at fed
      · cases fed
        intro rest' literal
        simp only at literal
        split at literal <;> cases literal
        exact fun zero => free (List.mem_cons_of_mem _ zero)
      · cases fed

/-- **A byte keeps the rest of a literal free of zero bytes.** -/
theorem feed_printable {s s' : Scanner} {c : UInt8} (printable : s.Printable)
    (fed : s.feed c = some s') : s'.Printable := by
  cases step : s.step with
  | literal expected => exact literal_printable printable step fed
  | beginValue =>
      rw [feed, step] at fed
      exact beginValue_printable printable fed
  | beginString =>
      rw [feed, step] at fed
      exact beginString_printable printable fed
  | _ =>
      -- The byte is skipped, ends a value, or leads to a fixed state that is no literal.
      rw [feed, step] at fed
      dsimp only at fed
      repeat' split at fed
      all_goals first
        | exact absurd fed (Option.some_ne_none s').symm
        | (cases fed; exact printable)
        | exact beginValue_printable printable fed
        | exact beginString_printable printable fed
        | exact endValue_printable fed
        | exact afterInteger_printable fed
        | exact exponentSign_printable fed
        | exact goto_printable (by simp) fed

/-- No state admits a zero byte. -/
theorem feed_zero {s : Scanner} (printable : s.Printable) : s.feed 0 = none := by
  obtain ⟨step, stack⟩ := s
  have ended : ∀ step, Scanner.endValue ⟨step, stack⟩ 0 = none := by
    intro step
    cases stack with
    | nil => rfl
    | cons top rest => cases top <;> rfl
  cases step with
  | literal expected =>
      cases expected with
      | nil => exact ended _
      | cons first rest =>
          have other : ((0 : UInt8) == first) = false := by
            rw [beq_eq_false_iff_ne]
            rintro rfl
            exact printable _ rfl List.mem_cons_self
          simp only [feed, other, Bool.false_eq_true, if_false]
  | _ => first | rfl | exact ended _

theorem feedAll_zero_notMem {s s' : Scanner} (printable : s.Printable) {data : Bytes}
    (fed : s.feedAll data = some s') : 0 ∉ data := by
  induction data generalizing s with
  | nil => exact List.not_mem_nil
  | cons c rest ih =>
      obtain ⟨next, first, others⟩ := Option.bind_eq_some_iff.mp fed
      rw [List.mem_cons, not_or]
      refine ⟨?_, ih (feed_printable printable first) others⟩
      rintro rfl
      rw [feed_zero printable] at first
      cases first

end Scanner

/-- **A JSON value holds no zero byte.** -/
theorem zero_notMem_of_valid {data : Bytes} (accepted : valid data = true) : 0 ∉ data := by
  cases fed : Scanner.start.feedAll data with
  | none =>
      rw [valid, fed] at accepted
      cases accepted
  | some s =>
      exact Scanner.feedAll_zero_notMem (Scanner.printable_of_ne (by simp [Scanner.start])) fed

end ControlCenter.Library.Json
