import ControlCenter.Library.JsonValue

/-!
# Redaction of audit details

`Redact` of `internal/identity/audit/audit.go`: a copy of the details in which every value
under a sensitive key is replaced, at any depth, and every bearer token inside another text
is cut out. The two regular expressions are matched as the `regexp` package does it, leftmost
first: case folding maps the long s and the Kelvin sign to letters, and a word boundary is
one of ASCII letters, digits and the underscore.

A replaced token leaves no match behind (`replaceAll_clean`): the replacement is followed by
a character that cannot continue a token, and none of its own characters starts a match. So
redaction is idempotent (`redact_idem`), and what it leaves depends on nothing under a
sensitive key (`redact_alike`).
-/

set_option autoImplicit false

namespace ControlCenter.Identity.Audit

open Library

/-! ## Characters of the patterns -/

/-- A lower case letter of a pattern under `(?i)`. -/
def folds (letter c : Char) : Bool :=
  c == letter || c == letter.toUpper || (letter == 's' && c == 'ſ') ||
    (letter == 'k' && c == 'K')

/-- `\b` tells these from the others. -/
def isWordChar (c : Char) : Bool := c.isAlphanum || c == '_'

/-- The class `\s`. -/
def isPatternSpace (c : Char) : Bool :=
  c == '\t' || c == '\n' || c == '\x0c' || c == '\r' || c == ' '

/-- The class of the characters of a token under `(?i)`. -/
def isTokenChar (c : Char) : Bool :=
  c.isAlphanum || "._~+/=-".toList.contains c || c == 'ſ' || c == 'K'

/-! ## Sensitive keys -/

/-- The alternatives of the pattern, with each optional separator written out. -/
def sensitiveWords : List String :=
  ["password", "passwd", "secret", "token", "authorization", "cookie",
    "apikey", "api-key", "api_key", "privatekey", "private-key", "private_key", "credential"]

/-- The text starts with the word. -/
def startsWithWord : List Char → List Char → Bool
  | [], _ => true
  | _ :: _, [] => false
  | letter :: word, c :: text => folds letter c && startsWithWord word text

def sensitiveKey (key : List Char) : Bool :=
  key.tails.any fun text => sensitiveWords.any fun word => startsWithWord word.toList text

/-! ## Bearer tokens -/

/-- The length of `\s+` and a token, with a blank already seen. -/
def scanToken : (seen : Bool) → List Char → Option Nat
  | _, [] => none
  | seen, c :: rest =>
      if isPatternSpace c then (scanToken true rest).map (· + 1)
      else if seen && isTokenChar c then some ((rest.takeWhile isTokenChar).length + 1)
      else none

/-- The length of the rest of the word, the blanks and the token. -/
def scanBearer : (word : List Char) → List Char → Option Nat
  | [], text => scanToken false text
  | _ :: _, [] => none
  | letter :: word, c :: rest =>
      if folds letter c then (scanBearer word rest).map (· + 1) else none

/-- The length of a match that starts here, after a character that is in a word or not. -/
def matchBearer (inWord : Bool) (text : List Char) : Option Nat :=
  if inWord then none else scanBearer "bearer".toList text

def bearerReplacement : List Char := "Bearer [REDACTED]".toList

/-- `ReplaceAllString`, with the characters of a match still to skip. -/
def replaceAll : (inWord : Bool) → (skip : Nat) → List Char → List Char
  | _, _, [] => []
  | _, skip + 1, c :: rest => replaceAll (isWordChar c) skip rest
  | inWord, 0, c :: rest =>
      match matchBearer inWord (c :: rest) with
      | none => c :: replaceAll (isWordChar c) 0 rest
      | some length => bearerReplacement ++ replaceAll (isWordChar c) (length - 1) rest

def redactText (text : List Char) : List Char := replaceAll false 0 text

example : redactText "xbearer a, Bearer bearer y".toList =
    "xbearer a, Bearer [REDACTED] y".toList := by decide

/-- No match starts anywhere in the text. -/
def Clean : (inWord : Bool) → List Char → Prop
  | _, [] => True
  | inWord, c :: rest => matchBearer inWord (c :: rest) = none ∧ Clean (isWordChar c) rest

variable {inWord : Bool} {text rest : List Char} {c : Char} {length : Nat}

theorem Clean.replaceAll_eq (clean : Clean inWord text) : replaceAll inWord 0 text = text := by
  induction text generalizing inWord with
  | nil => rfl
  | cons c rest ih => rw [replaceAll, clean.1, ih clean.2]

/-- What the first letter of the word is. -/
theorem folds_b : folds 'b' c = true ↔ c = 'b' ∨ c = 'B' := by
  have upper : 'b'.toUpper = 'B' := by decide
  simp [folds, upper]

theorem matchBearer_head (found : matchBearer inWord (c :: rest) = some length) :
    c = 'b' ∨ c = 'B' := by
  unfold matchBearer at found
  split at found
  · cases found
  · by_contra other
    rw [← folds_b] at other
    simp [scanBearer, other] at found

theorem drop_length_takeWhile {α : Type} (p : α → Bool) (list : List α) :
    list.drop (list.takeWhile p).length = list.dropWhile p := by
  have whole := List.take_append_drop (list.takeWhile p).length list
  have start : list.take (list.takeWhile p).length = list.takeWhile p :=
    List.prefix_iff_eq_take.mp (List.takeWhile_prefix p) |>.symm
  rw [start] at whole
  conv_rhs at whole => rw [← List.takeWhile_append_dropWhile (p := p) (l := list)]
  exact List.append_cancel_left whole

/-- After a match stands no character of a token. -/
theorem scanToken_next {seen : Bool} (found : scanToken seen text = some length) :
    ∀ c ∈ (text.drop length).head?, isTokenChar c = false := by
  induction text generalizing seen length with
  | nil => cases found
  | cons first rest ih =>
      rw [scanToken] at found
      split at found
      · obtain ⟨inner, scanned, rfl⟩ := Option.map_eq_some_iff.mp found
        exact ih scanned
      · split at found
        · cases found
          intro c next
          rw [List.drop_succ_cons, drop_length_takeWhile] at next
          have stops := List.head?_dropWhile_not isTokenChar rest
          rw [Option.mem_def.mp next] at stops
          simpa using stops
        · cases found

theorem scanBearer_next {word : List Char} (found : scanBearer word text = some length) :
    ∀ c ∈ (text.drop length).head?, isTokenChar c = false := by
  induction word generalizing text length with
  | nil => exact scanToken_next found
  | cons letter word ih =>
      cases text with
      | nil => cases found
      | cons first rest =>
          rw [scanBearer] at found
          split at found
          · obtain ⟨inner, scanned, rfl⟩ := Option.map_eq_some_iff.mp found
            rw [List.drop_succ_cons]
            exact ih scanned
          · cases found

theorem matchBearer_next (found : matchBearer inWord (c :: rest) = some length) :
    ∀ next ∈ (rest.drop (length - 1)).head?, isTokenChar next = false := by
  unfold matchBearer at found
  split at found
  · cases found
  · have stops := scanBearer_next found
    have word : "bearer".toList = 'b' :: "earer".toList := by decide
    rw [word, scanBearer] at found
    split at found
    · obtain ⟨inner, _, rfl⟩ := Option.map_eq_some_iff.mp found
      exact stops
    · cases found

/-! ## A replaced text has no match -/

/-- The output is the input up to the first replacement, which starts where a `b` was. -/
theorem replaceAll_head (inWord : Bool) (c : Char) (rest : List Char) :
    replaceAll inWord 0 (c :: rest) = c :: replaceAll (isWordChar c) 0 rest ∨
      ((c = 'b' ∨ c = 'B') ∧ ∃ tail, replaceAll inWord 0 (c :: rest) = 'B' :: tail) := by
  rw [replaceAll]
  cases found : matchBearer inWord (c :: rest) with
  | none => exact .inl rfl
  | some length => exact .inr ⟨matchBearer_head found, _, rfl⟩

/-- A token of the output begins where one of the input does. -/
theorem scanToken_replaceAll {seen : Bool}
    (found : (scanToken seen (replaceAll inWord 0 text)).isSome = true) :
    (scanToken seen text).isSome = true := by
  induction text generalizing inWord seen with
  | nil => exact found
  | cons c rest ih =>
      rcases replaceAll_head inWord c rest with kept | ⟨letter, tail, replaced⟩
      · rw [kept, scanToken] at found
        rw [scanToken]
        split at found
        · next blank =>
            rw [if_pos blank, Option.isSome_map]
            exact ih (by rwa [Option.isSome_map] at found)
        · next other =>
            rw [if_neg other]
            split at found
            · next starts =>
                rw [if_pos starts]
                rfl
            · cases found
      · rw [replaced, scanToken] at found
        have small : isTokenChar 'b' = true := by decide
        have capital : isTokenChar 'B' = true := by decide
        rcases letter with rfl | rfl <;> cases seen <;>
          simp [scanToken, isPatternSpace, small, capital] at found ⊢

/-- The rest of the word has no `b`, so it is not completed by a replacement. -/
theorem scanBearer_replaceAll {word : List Char}
    (others : ∀ letter ∈ word, folds letter 'B' = false)
    (found : (scanBearer word (replaceAll inWord 0 text)).isSome = true) :
    (scanBearer word text).isSome = true := by
  induction word generalizing inWord text with
  | nil => exact scanToken_replaceAll found
  | cons letter word ih =>
      rw [List.forall_mem_cons] at others
      cases text with
      | nil => exact found
      | cons c rest =>
          rcases replaceAll_head inWord c rest with kept | ⟨_, tail, replaced⟩
          · rw [kept, scanBearer] at found
            rw [scanBearer]
            split at found
            · next same =>
                rw [if_pos same, Option.isSome_map]
                exact ih others.2 (by rwa [Option.isSome_map] at found)
            · cases found
          · rw [replaced, scanBearer, others.1] at found
            cases found

/-- A character that was kept starts no match in the output. -/
theorem matchBearer_replaceAll (unmatched : matchBearer inWord (c :: rest) = none) :
    matchBearer inWord (c :: replaceAll (isWordChar c) 0 rest) = none := by
  unfold matchBearer at unmatched ⊢
  split
  · rfl
  · next outside =>
      rw [if_neg outside] at unmatched
      have word : "bearer".toList = 'b' :: "earer".toList := by decide
      rw [word, scanBearer] at unmatched ⊢
      split
      · next same =>
          rw [if_pos same, Option.map_eq_none_iff] at unmatched
          rw [Option.map_eq_none_iff, ← Option.not_isSome_iff_eq_none]
          intro found
          have others : ∀ letter ∈ "earer".toList, folds letter 'B' = false := by
            simpa using (by decide : ("earer".toList.all fun c => !folds c 'B') = true)
          have again := scanBearer_replaceAll others found
          rw [unmatched] at again
          cases again
      · rfl

/-- Characters that start no match do not add one. -/
theorem clean_append {piece : List Char} (others : ∀ c ∈ piece, c ≠ 'b' ∧ c ≠ 'B')
    (clean : Clean ((piece.getLast?.map isWordChar).getD inWord) text) :
    Clean inWord (piece ++ text) := by
  induction piece generalizing inWord with
  | nil => exact clean
  | cons c piece ih =>
      rw [List.forall_mem_cons] at others
      refine ⟨?_, ih others.2 ?_⟩
      · rw [← Option.not_isSome_iff_eq_none, Option.isSome_iff_exists]
        rintro ⟨length, found⟩
        rcases matchBearer_head found with same | same
        · exact others.1.1 same
        · exact others.1.2 same
      · rw [List.getLast?_cons] at clean
        cases last : piece.getLast? <;> simpa [last] using clean

/-- The replacement has no match, whatever follows it. -/
theorem clean_replacement (clean : Clean false text) :
    Clean inWord (bearerReplacement ++ text) := by
  have spelled : bearerReplacement = 'B' :: "earer [REDACTED]".toList := by decide
  rw [spelled]
  have others : ∀ c ∈ "earer [REDACTED]".toList, c ≠ 'b' ∧ c ≠ 'B' := by
    simp
  refine ⟨?_, clean_append others clean⟩
  cases inWord <;> rfl

/-- The output has no match. When a match was skipped, what follows it may stand after
anything. -/
theorem replaceAll_clean_aux (text : List Char) : ∀ inWord,
    Clean inWord (replaceAll inWord 0 text) ∧
      ∀ skip, (∀ c ∈ (text.drop skip).head?, isTokenChar c = false) →
        Clean false (replaceAll inWord skip text) := by
  induction text with
  | nil =>
      intro inWord
      exact ⟨trivial, fun skip _ => by cases skip <;> exact trivial⟩
  | cons c rest ih =>
      intro inWord
      refine ⟨?_, fun skip stops => ?_⟩
      · rw [replaceAll]
        cases found : matchBearer inWord (c :: rest) with
        | none => exact ⟨matchBearer_replaceAll found, (ih (isWordChar c)).1⟩
        | some length =>
            exact clean_replacement ((ih (isWordChar c)).2 _ (matchBearer_next found))
      · cases skip with
        | succ skip => exact (ih (isWordChar c)).2 skip stops
        | zero =>
            -- the character after a match is in no token, so it is not a `b`
            have other := stops c rfl
            have unmatched : ∀ before, matchBearer before (c :: rest) = none := by
              intro before
              rw [← Option.not_isSome_iff_eq_none, Option.isSome_iff_exists]
              rintro ⟨length, found⟩
              rcases matchBearer_head found with rfl | rfl <;> cases other
            rw [replaceAll, unmatched inWord]
            exact ⟨matchBearer_replaceAll (unmatched false), (ih (isWordChar c)).1⟩

/-- **No token is left.** -/
theorem replaceAll_clean (text : List Char) : Clean false (redactText text) :=
  (replaceAll_clean_aux text false).1

theorem redactText_idem (text : List Char) : redactText (redactText text) = redactText text :=
  (replaceAll_clean text).replaceAll_eq

/-! ## Values -/

/-- What stands for a hidden value. -/
def redacted : JsonValue := .str "[REDACTED]".toList

mutual
def redactValue : JsonValue → JsonValue
  | .null => .null
  | .bool value => .bool value
  | .num literal => .num literal
  | .str text => .str (redactText text)
  | .arr items => .arr (redactItems items)
  | .obj members => .obj (redactMembers members)

def redactItems : List JsonValue → List JsonValue
  | [] => []
  | v :: rest => redactValue v :: redactItems rest

/-- The loop of `Redact` over a map. -/
def redactMembers : List (List Char × JsonValue) → List (List Char × JsonValue)
  | [] => []
  | (key, v) :: rest =>
      (key, if sensitiveKey key then redacted else redactValue v) :: redactMembers rest
end

/-- `Redact`. The nil map stays nil. -/
def redact (input : Option (List (List Char × JsonValue))) :
    Option (List (List Char × JsonValue)) :=
  input.map redactMembers

mutual
theorem redactValue_idem : ∀ v, redactValue (redactValue v) = redactValue v
  | .null | .bool _ | .num _ => rfl
  | .str text => by rw [redactValue, redactValue, redactText_idem]
  | .arr items => by rw [redactValue, redactValue, redactItems_idem items]
  | .obj members => by rw [redactValue, redactValue, redactMembers_idem members]

theorem redactItems_idem : ∀ items, redactItems (redactItems items) = redactItems items
  | [] => rfl
  | v :: rest => by
      rw [redactItems, redactItems, redactValue_idem v, redactItems_idem rest]

theorem redactMembers_idem : ∀ members,
    redactMembers (redactMembers members) = redactMembers members
  | [] => rfl
  | (key, v) :: rest => by
      rw [redactMembers, redactMembers, redactMembers_idem rest]
      cases sensitiveKey key with
      | true => rfl
      | false => simp only [Bool.false_eq_true, if_false, redactValue_idem v]
end

theorem redact_idem (input : Option (List (List Char × JsonValue))) :
    redact (redact input) = redact input := by
  cases input with
  | none => rfl
  | some members => exact congrArg some (redactMembers_idem members)

/-! ## Values that differ in hidden places -/

mutual
/-- The values differ at most under hidden keys. -/
inductive Alike (hidden : List Char → Bool) : JsonValue → JsonValue → Prop where
  | null : Alike hidden .null .null
  | bool (value : Bool) : Alike hidden (.bool value) (.bool value)
  | num (literal : List Char) : Alike hidden (.num literal) (.num literal)
  | str (text : List Char) : Alike hidden (.str text) (.str text)
  | arr {items items' : List JsonValue} (each : AlikeItems hidden items items') :
      Alike hidden (.arr items) (.arr items')
  | obj {members members' : List (List Char × JsonValue)}
      (each : AlikeMembers hidden members members') : Alike hidden (.obj members) (.obj members')

inductive AlikeItems (hidden : List Char → Bool) : List JsonValue → List JsonValue → Prop where
  | nil : AlikeItems hidden [] []
  | cons {v v' : JsonValue} {rest rest' : List JsonValue} (first : Alike hidden v v')
      (others : AlikeItems hidden rest rest') : AlikeItems hidden (v :: rest) (v' :: rest')

inductive AlikeMembers (hidden : List Char → Bool) :
    List (List Char × JsonValue) → List (List Char × JsonValue) → Prop where
  | nil : AlikeMembers hidden [] []
  | shown {key : List Char} {v v' : JsonValue} {rest rest' : List (List Char × JsonValue)}
      (first : Alike hidden v v') (others : AlikeMembers hidden rest rest') :
      AlikeMembers hidden ((key, v) :: rest) ((key, v') :: rest')
  | hidden {key : List Char} {v v' : JsonValue} {rest rest' : List (List Char × JsonValue)}
      (concealed : hidden key = true) (others : AlikeMembers hidden rest rest') :
      AlikeMembers hidden ((key, v) :: rest) ((key, v') :: rest')
end

section Redact

-- the keys that are hidden, besides the sensitive ones
variable {more : List Char → Bool}

mutual
/-- **Redaction hides what stands under sensitive keys,** and keeps the rest alike. -/
theorem Alike.redact {v v' : JsonValue} :
    Alike (fun key => sensitiveKey key || more key) v v' →
      Alike more (redactValue v) (redactValue v')
  | .null => .null
  | .bool value => .bool value
  | .num literal => .num literal
  | .str text => .str (redactText text)
  | .arr each => .arr each.redact
  | .obj each => .obj each.redact

theorem AlikeItems.redact {items items' : List JsonValue} :
    AlikeItems (fun key => sensitiveKey key || more key) items items' →
      AlikeItems more (redactItems items) (redactItems items')
  | .nil => .nil
  | .cons first others => .cons first.redact others.redact

theorem AlikeMembers.redact {members members' : List (List Char × JsonValue)} :
    AlikeMembers (fun key => sensitiveKey key || more key) members members' →
      AlikeMembers more (redactMembers members) (redactMembers members')
  | .nil => .nil
  | @AlikeMembers.shown _ key _ _ _ _ first others => by
      rw [redactMembers, redactMembers]
      cases sensitive : sensitiveKey key with
      | true => exact .shown (.str _) others.redact
      | false => exact .shown first.redact others.redact
  | @AlikeMembers.hidden _ key _ _ _ _ concealed others => by
      rw [redactMembers, redactMembers]
      cases sensitive : sensitiveKey key with
      | true => exact .shown (.str _) others.redact
      | false =>
          have either : (sensitiveKey key || more key) = true := concealed
          rw [sensitive, Bool.false_or] at either
          exact .hidden either others.redact
end

end Redact

mutual
/-- Nothing is hidden. -/
theorem Alike.eq {v v' : JsonValue} : Alike (fun _ => false) v v' → v = v'
  | .null | .bool _ | .num _ | .str _ => rfl
  | .arr each => congrArg JsonValue.arr each.eq
  | .obj each => congrArg JsonValue.obj each.eq

theorem AlikeItems.eq {items items' : List JsonValue} :
    AlikeItems (fun _ => false) items items' → items = items'
  | .nil => rfl
  | .cons first others => congrArg₂ List.cons first.eq others.eq

theorem AlikeMembers.eq {members members' : List (List Char × JsonValue)} :
    AlikeMembers (fun _ => false) members members' → members = members'
  | .nil => rfl
  | .shown first others => by rw [first.eq, others.eq]
  | .hidden concealed _ => nomatch concealed
end

/-- **What is left depends on nothing under a sensitive key.** -/
theorem redact_alike {members members' : List (List Char × JsonValue)}
    (alike : AlikeMembers sensitiveKey members members') :
    redactMembers members = redactMembers members' := by
  have keys : sensitiveKey = fun key => sensitiveKey key || false := by
    funext key
    rw [Bool.or_false]
  rw [keys] at alike
  exact alike.redact.eq

end ControlCenter.Identity.Audit
