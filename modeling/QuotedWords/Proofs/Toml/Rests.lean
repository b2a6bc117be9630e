import QuotedWords.Proofs.Position
import QuotedWords.Toml.Document

/-!
# What is left of a TOML document

Every reader takes something from the front of a text and leaves the rest of it as it
is.  It stops there or further on, but never outside of the text, so the place of a
fault is always a place of the document.
-/

namespace QuotedWords
namespace Toml

/-!
# Rests and stops
-/

/-- A text is left of another one, and something has been taken from its front. -/
structure LeftOf (rest text : Text) : Prop where
  suffix : rest <:+ text
  shorter : rest.length < text.length

namespace LeftOf

variable {first second third : Text} {c : Char}

theorem cons (suffix : first <:+ second) : LeftOf first (c :: second) :=
  ⟨suffix.trans (List.suffix_cons c second), Nat.lt_succ_of_le suffix.length_le⟩

theorem of_suffix (suffix : first <:+ second) (left : LeftOf second third) :
    LeftOf first third :=
  ⟨suffix.trans left.suffix, Nat.lt_of_le_of_lt suffix.length_le left.shorter⟩

theorem trans_suffix (left : LeftOf first second) (suffix : second <:+ third) :
    LeftOf first third :=
  ⟨left.suffix.trans suffix, Nat.lt_of_lt_of_le left.shorter suffix.length_le⟩

end LeftOf

/-- A reading answers with what satisfies a condition, or stops inside of the text. -/
def StaysIn {α : Type} (text : Text) (reading : Except Stop α) (holds : α → Prop) : Prop :=
  match reading with
  | .ok answer => holds answer
  | .error stopped => stopped.rest <:+ text

namespace StaysIn

variable {α β : Type} {text rest : Text} {reading : Except Stop α} {holds : α → Prop}
  {next : α → Except Stop β} {holdsNext : β → Prop}

theorem stop (cause : Cause) (within : rest <:+ text) :
    StaysIn text (Toml.stop cause rest) holds :=
  within

theorem bind (first : StaysIn text reading holds)
    (second : ∀ answer, holds answer → StaysIn text (next answer) holdsNext) :
    StaysIn text (reading >>= next) holdsNext := by
  cases reading with
  | error stopped => exact first
  | ok answer => exact second answer first

theorem map {change : α → β} (stays : StaysIn text reading holds)
    (changes : ∀ answer, holds answer → holdsNext (change answer)) :
    StaysIn text (reading.map change) holdsNext := by
  cases reading with
  | error stopped => exact stays
  | ok answer => exact changes answer stays

/-- What is read of a rest is read of the text. -/
theorem of_suffix {weaker : α → Prop} (stays : StaysIn rest reading holds)
    (within : rest <:+ text) (weakens : ∀ answer, holds answer → weaker answer) :
    StaysIn text reading weaker := by
  cases reading with
  | error stopped => exact List.IsSuffix.trans stays within
  | ok answer => exact weakens answer stays

variable {restOf : α → Text}

theorem suffix (stays : StaysIn rest reading fun answer => restOf answer <:+ rest)
    (within : rest <:+ text) : StaysIn text reading fun answer => restOf answer <:+ text :=
  stays.of_suffix within fun _ inner => inner.trans within

theorem leftOf (stays : StaysIn rest reading fun answer => LeftOf (restOf answer) rest)
    (within : rest <:+ text) : StaysIn text reading fun answer => LeftOf (restOf answer) text :=
  stays.of_suffix within fun _ left => left.trans_suffix within

/-- What is left of a rest is left of the text, if something came before the rest. -/
theorem leftOf_of_suffix (stays : StaysIn rest reading fun answer => restOf answer <:+ rest)
    (less : LeftOf rest text) : StaysIn text reading fun answer => LeftOf (restOf answer) text :=
  stays.of_suffix less.suffix fun _ within => less.of_suffix within

end StaysIn

variable {text rest : Text}

/-!
# Blanks and comments
-/

theorem skipSpaces_suffix (text : Text) : skipSpaces text <:+ text :=
  List.dropWhile_suffix isSpace

theorem skipCommentBody_staysIn (text : Text) :
    StaysIn text (skipCommentBody text) (· <:+ text) := by
  induction text with
  | nil => exact List.suffix_rfl
  | cons c text ih =>
      rw [skipCommentBody]
      split
      · exact List.suffix_rfl
      · split
        · exact .stop _ List.suffix_rfl
        · exact ih.suffix (List.suffix_cons c text)

theorem skipComment_staysIn (text : Text) : StaysIn text (skipComment text) (· <:+ text) := by
  unfold skipComment
  split
  next rest => exact (skipCommentBody_staysIn rest).suffix (List.suffix_cons '#' rest)
  next => exact List.suffix_rfl

theorem skipVoid_staysIn (commented : Bool) (text : Text) :
    StaysIn text (skipVoid commented text) (· <:+ text) := by
  induction text generalizing commented with
  | nil =>
      cases commented with
      | false => exact List.suffix_rfl
      | true => exact List.suffix_rfl
  | cons c text ih =>
      have further (commented : Bool) :
          StaysIn (c :: text) (skipVoid commented text) (· <:+ c :: text) :=
        (ih commented).suffix (List.suffix_cons c text)
      cases commented with
      | true =>
          rw [skipVoid]
          split
          · exact further false
          · split
            · exact .stop _ List.suffix_rfl
            · exact further true
      | false =>
          rw [skipVoid]
          split
          · exact further true
          · split
            · exact further false
            · exact List.suffix_rfl

/-!
# Strings
-/

theorem before?_suffix {mark read : Text} (found : before? mark text = some (read, rest)) :
    rest <:+ text := by
  induction text generalizing read with
  | nil => cases found
  | cons c text ih =>
      rw [before?] at found
      split at found
      · cases found
        exact List.suffix_rfl
      · rcases Option.map_eq_some_iff.mp found with ⟨⟨later, others⟩, foundLater, same⟩
        cases same
        exact (ih foundLater).trans (List.suffix_cons c text)

theorem literalUpTo_staysIn (mark : Text) (isForbidden : Char → Bool) (text : Text) :
    StaysIn text (literalUpTo mark isForbidden text) fun answer => answer.2 <:+ text := by
  unfold literalUpTo
  split
  next => exact .stop _ (List.nil_suffix)
  next read rest found =>
    split
    next => exact .stop _ (List.dropWhile_suffix _)
    next => exact (List.drop_suffix _ rest).trans (before?_suffix found)

theorem codePoint_staysIn (digits : Nat) (text : Text) :
    StaysIn text (codePoint digits text) fun _ => True := by
  unfold codePoint
  split
  next => exact .stop _ List.suffix_rfl
  next =>
    split
    · exact .stop _ List.suffix_rfl
    · split
      next => exact trivial
      next => exact .stop _ (List.drop_suffix digits text)

theorem consRead_staysIn {reading : Except Stop (Text × Text)} (c : Char)
    (stays : StaysIn text reading fun answer => answer.2 <:+ rest) :
    StaysIn text (consRead c reading) fun answer => answer.2 <:+ rest := by
  cases reading with
  | error stopped => exact stays
  | ok answer => exact stays

theorem basicString_staysIn (lines : Bool) (state : StringState) (text : Text) :
    StaysIn text (basicString lines state text) fun answer => answer.2 <:+ text := by
  induction text generalizing state with
  | nil =>
      cases state with
      | plain | escape | digits missing | lineEnd | gap => exact List.suffix_rfl
  | cons c text ih =>
      have further (state : StringState) :
          StaysIn (c :: text) (basicString lines state text)
            fun answer => answer.2 <:+ c :: text :=
        (ih state).suffix (List.suffix_cons c text)
      have furtherWith (read : Char) (state : StringState) :=
        consRead_staysIn read (further state)
      have coded (digits : Nat) (state : StringState) :
          StaysIn (c :: text)
            (codePoint digits text >>= fun read => consRead read (basicString lines state text))
            fun answer => answer.2 <:+ c :: text :=
        ((codePoint_staysIn digits text).of_suffix (List.suffix_cons c text)
          fun _ known => known).bind fun read _ => furtherWith read state
      -- Where the characters stand for themselves, in a string or in a gap of it.
      have ahead (skipped : Bool) :
          StaysIn (c :: text)
            (if skipped then basicString lines .gap text
            else if c = '"' then
              if !lines then .ok ([], text)
              else if ['"', '"'].isPrefixOf text then .ok ([], text.drop 2)
              else consRead c (basicString lines .plain text)
            else if c = '\\' then basicString lines .escape text
            else if if lines then isForbiddenInLines c else isForbidden c then
              stop (.illegal c) (c :: text)
            else consRead c (basicString lines .plain text))
            fun answer => answer.2 <:+ c :: text := by
        split
        · exact further .gap
        · split
          · split
            · exact List.suffix_cons c text
            · split
              · exact (List.drop_suffix 2 text).trans (List.suffix_cons c text)
              · exact furtherWith c .plain
          · split
            · exact further .escape
            · generalize (if lines then isForbiddenInLines c else isForbidden c) = illegal
              split
              · exact .stop _ List.suffix_rfl
              · exact furtherWith c .plain
      cases state with
      | plain => exact ahead false
      | gap => exact ahead (isSpace c || c == '\n')
      | digits missing =>
          cases missing with
          | zero => exact further .plain
          | succ missing => exact further (.digits missing)
      | lineEnd =>
          rw [basicString]
          split
          · exact further .gap
          · split
            · exact further .lineEnd
            · exact .stop _ List.suffix_rfl
      | escape =>
          rw [basicString]
          split
          · exact further .gap
          · split
            · exact further .lineEnd
            · split
              · exact coded 4 (.digits 3)
              · split
                · exact coded 8 (.digits 7)
                · split
                  next meant _ => exact furtherWith meant .plain
                  next => exact .stop _ (List.suffix_cons c text)

theorem skipLineEnd_suffix (text : Text) : skipLineEnd text <:+ text := by
  unfold skipLineEnd
  split
  next rest => exact List.suffix_cons '\n' rest
  next => exact List.suffix_rfl

theorem stringOfLines_staysIn (quote : Char) (text : Text) :
    StaysIn text (stringOfLines quote text) fun answer => answer.2 <:+ text := by
  have closing {reading : Except Stop (Text × Text)}
      (stays : StaysIn (skipLineEnd text) reading fun answer => answer.2 <:+ skipLineEnd text) :
      StaysIn text (reading >>= fun answer => .ok (takeQuotes quote answer.1 answer.2))
        fun answer => answer.2 <:+ text := by
    refine (stays.suffix (skipLineEnd_suffix text)).bind ?_
    intro answer within
    exact (List.drop_suffix _ answer.2).trans within
  unfold stringOfLines
  dsimp only
  split
  · exact closing (basicString_staysIn true .plain _)
  · exact closing (literalUpTo_staysIn _ _ _)

/-!
# Keys
-/

theorem dropWhile_leftOf {c : Char} {passes : Char → Bool} (passed : passes c = true) :
    LeftOf ((c :: text).dropWhile passes) (c :: text) := by
  rw [List.dropWhile_cons_of_pos passed]
  exact .cons (List.dropWhile_suffix passes)

theorem keyPart_staysIn (text : Text) :
    StaysIn text (keyPart text) fun answer => LeftOf answer.2 text := by
  unfold keyPart
  split
  next => exact .stop _ List.suffix_rfl
  next c rest =>
    split
    next => exact (basicString_staysIn false .plain rest).leftOf_of_suffix (.cons List.suffix_rfl)
    next =>
      split
      next =>
        exact (literalUpTo_staysIn ['\''] isForbidden rest).leftOf_of_suffix (.cons List.suffix_rfl)
      next =>
        split
        next bare => exact dropWhile_leftOf bare
        next => exact .stop _ List.suffix_rfl

theorem keyWithin_staysIn (budget : Nat) (text : Text) :
    StaysIn text (keyWithin budget text) fun answer => LeftOf answer.2 text := by
  induction budget generalizing text with
  | zero => exact .stop _ List.suffix_rfl
  | succ budget ih =>
      unfold keyWithin
      refine (keyPart_staysIn text).bind ?_
      rintro ⟨part, rest⟩ left
      have after : LeftOf (skipSpaces rest) text := left.of_suffix (skipSpaces_suffix rest)
      dsimp only
      split
      next others dotted =>
        rw [dotted] at after
        have later : LeftOf (skipSpaces others) text :=
          after.of_suffix ((skipSpaces_suffix others).trans (List.suffix_cons '.' others))
        refine ((ih (skipSpaces others)).leftOf later.suffix).bind ?_
        rintro ⟨parts, rest⟩ less
        exact less
      next => exact after

theorem key_staysIn (text : Text) :
    StaysIn text (key text) fun answer => LeftOf answer.2 text :=
  keyWithin_staysIn (text.length + 1) text

/-!
# Numbers
-/

theorem moreDigits_suffix (base : Nat) (text : Text) : (moreDigits base text).2 <:+ text := by
  fun_induction moreDigits base text with
  | case1 => exact List.suffix_rfl
  | case2 c rest digit isDigit more ih =>
      exact ih.trans ((List.suffix_cons c rest).trans (List.suffix_cons '_' (c :: rest)))
  | case3 c rest noDigit => exact List.suffix_rfl
  | case4 c rest notApart digit isDigit more ih => exact ih.trans (List.suffix_cons c rest)
  | case5 c rest notApart noDigit => exact List.suffix_rfl

theorem digits?_leftOf {base : Nat} {digits : List Nat}
    (found : digits? base text = some (digits, rest)) : LeftOf rest text := by
  cases text with
  | nil => cases found
  | cons c text =>
      rcases Option.map_eq_some_iff.mp found with ⟨digit, -, same⟩
      cases same
      exact .cons (moreDigits_suffix base text)

theorem sign_suffix (text : Text) : (sign text).2 <:+ text := by
  unfold sign
  split
  next rest => exact List.suffix_cons '-' rest
  next rest => exact List.suffix_cons '+' rest
  next => exact List.suffix_rfl

theorem wholePart?_leftOf {digits : List Nat}
    (found : wholePart? text = some (digits, rest)) : LeftOf rest text := by
  unfold wholePart? at found
  split at found
  next =>
    cases found
    exact .cons List.suffix_rfl
  next => exact digits?_leftOf found

theorem fraction?_leftOf {digits : List Nat}
    (found : fraction? text = some (digits, rest)) : LeftOf rest text := by
  unfold fraction? at found
  split at found
  next others => exact (digits?_leftOf found).trans_suffix (List.suffix_cons '.' others)
  next => cases found

theorem exponent?_leftOf {power : Int}
    (found : exponent? text = some (power, rest)) : LeftOf rest text := by
  unfold exponent? at found
  split at found
  next c others =>
    split at found
    next =>
      rcases Option.map_eq_some_iff.mp found with ⟨⟨digits, left⟩, read, same⟩
      cases same
      exact (digits?_leftOf read).trans_suffix
        ((sign_suffix others).trans (List.suffix_cons c others))
    next => cases found
  next => cases found

theorem basedInteger?_leftOf {value : Nat}
    (found : basedInteger? text = some (value, rest)) : LeftOf rest text := by
  unfold basedInteger? at found
  split at found
  next mark others =>
    rcases Option.bind_eq_some_iff.mp found with ⟨base, -, read⟩
    rcases Option.map_eq_some_iff.mp read with ⟨⟨digits, left⟩, readDigits, same⟩
    cases same
    exact (digits?_leftOf readDigits).trans_suffix
      ((List.suffix_cons mark others).trans (List.suffix_cons '0' (mark :: others)))
  next => cases found

/-- What is left where something may or may not stand. -/
theorem getD_suffix {α : Type} {found : Option (α × Text)} (otherwise : α)
    (left : ∀ read rest, found = some (read, rest) → LeftOf rest text) :
    (found.getD (otherwise, text)).2 <:+ text := by
  cases found with
  | none => exact List.suffix_rfl
  | some answer => exact (left answer.1 answer.2 rfl).suffix

theorem decimalNumber?_leftOf {value : Scalar}
    (found : decimalNumber? text = some (value, rest)) : LeftOf rest text := by
  unfold decimalNumber? at found
  rcases Option.bind_eq_some_iff.mp found with ⟨⟨whole, afterWhole⟩, read, others⟩
  have wholeLeft : LeftOf afterWhole text :=
    (wholePart?_leftOf read).trans_suffix (sign_suffix text)
  have fractionLeft : ((fraction? afterWhole).getD ([], afterWhole)).2 <:+ afterWhole :=
    getD_suffix [] fun _ _ => fraction?_leftOf
  have exponentLeft (afterFraction : Text) :
      ((exponent? afterFraction).getD (0, afterFraction)).2 <:+ afterFraction :=
    getD_suffix 0 fun _ _ => exponent?_leftOf
  have left := wholeLeft.of_suffix ((exponentLeft _).trans fractionLeft)
  dsimp only at others
  split at others
  · cases others
    exact left
  · cases others
    exact left

theorem specialNumber?_leftOf {value : Scalar}
    (found : specialNumber? text = some (value, rest)) : LeftOf rest text := by
  have signed := sign_suffix text
  unfold specialNumber? at found
  dsimp only at found
  split at found
  next others named =>
    cases found
    rw [named] at signed
    exact (LeftOf.cons (List.suffix_append ['n', 'f'] rest)).trans_suffix signed
  next others named =>
    cases found
    rw [named] at signed
    exact (LeftOf.cons (List.suffix_append ['a', 'n'] rest)).trans_suffix signed
  next => cases found

theorem number_staysIn (text : Text) :
    StaysIn text (number text) fun answer => LeftOf answer.2 text := by
  unfold number
  split
  next value rest based => exact basedInteger?_leftOf based
  next =>
    split
    next => exact .stop _ List.suffix_rfl
    next value rest found =>
      split
      next => exact .stop _ List.suffix_rfl
      next =>
        rcases Option.or_eq_some_iff.mp found with decimal | ⟨-, special⟩
        · exact decimalNumber?_leftOf decimal
        · exact specialNumber?_leftOf special

/-!
# Moments
-/

theorem fixedNumber?_suffix {digits bound : Nat} {value : Fin bound}
    (found : fixedNumber? digits bound text = some (value, rest)) : rest <:+ text := by
  unfold fixedNumber? at found
  rcases Option.bind_eq_some_iff.mp found with ⟨values, -, fits⟩
  split at fits
  · cases fits
    exact List.drop_suffix digits text
  · cases fits

theorem fixedNumber?_leftOf {digits bound : Nat} {value : Fin bound}
    (found : fixedNumber? (digits + 1) bound text = some (value, rest)) : LeftOf rest text := by
  unfold fixedNumber? at found
  rcases Option.bind_eq_some_iff.mp found with ⟨values, read, fits⟩
  split at fits
  next enough =>
    cases fits
    cases text with
    | nil =>
        cases read
        cases enough.1
    | cons c text => exact .cons (List.drop_suffix digits text)
  next => cases fits

theorem mark?_suffix {isMark : Char → Bool} (found : mark? isMark text = some rest) :
    rest <:+ text := by
  cases text with
  | nil => cases found
  | cons c text =>
      rw [mark?] at found
      split at found
      · cases found
        exact List.suffix_cons c rest
      · cases found

theorem day?_leftOf {numbers : Nat × Nat × Nat} (found : day? text = some (numbers, rest)) :
    LeftOf rest text := by
  unfold day? at found
  rcases Option.bind_eq_some_iff.mp found with ⟨⟨year, afterYear⟩, readYear, found⟩
  rcases Option.bind_eq_some_iff.mp found with ⟨monthText, firstMark, found⟩
  rcases Option.bind_eq_some_iff.mp found with ⟨⟨month, afterMonth⟩, readMonth, found⟩
  rcases Option.bind_eq_some_iff.mp found with ⟨dayText, secondMark, found⟩
  rcases Option.bind_eq_some_iff.mp found with ⟨⟨day, afterDay⟩, readDay, found⟩
  have left : LeftOf afterDay text :=
    (fixedNumber?_leftOf readYear).of_suffix <|
      (fixedNumber?_suffix readDay).trans <| (mark?_suffix secondMark).trans <|
        (fixedNumber?_suffix readMonth).trans (mark?_suffix firstMark)
  dsimp only at found
  split at found
  · cases found
  · cases found
    exact left

theorem microseconds?_leftOf {value : Fin 1000000}
    (found : microseconds? text = some (value, rest)) : LeftOf rest text := by
  unfold microseconds? at found
  split at found
  next others =>
    dsimp only at found
    split at found
    · cases found
    · rcases Option.map_eq_some_iff.mp found with ⟨read, -, same⟩
      cases same
      exact .cons (List.drop_suffix _ others)
  next => cases found

theorem clock?_leftOf {time : Clock} (found : clock? text = some (time, rest)) :
    LeftOf rest text := by
  unfold clock? at found
  rcases Option.bind_eq_some_iff.mp found with ⟨⟨hour, afterHour⟩, readHour, found⟩
  rcases Option.bind_eq_some_iff.mp found with ⟨minuteText, firstMark, found⟩
  rcases Option.bind_eq_some_iff.mp found with ⟨⟨minute, afterMinute⟩, readMinute, found⟩
  rcases Option.bind_eq_some_iff.mp found with ⟨secondText, secondMark, found⟩
  rcases Option.bind_eq_some_iff.mp found with ⟨⟨second, afterSecond⟩, readSecond, found⟩
  have left : LeftOf afterSecond text :=
    (fixedNumber?_leftOf readHour).of_suffix <|
      (fixedNumber?_suffix readSecond).trans <| (mark?_suffix secondMark).trans <|
        (fixedNumber?_suffix readMinute).trans (mark?_suffix firstMark)
  cases found
  exact left.of_suffix (getD_suffix _ fun _ _ => microseconds?_leftOf)

theorem ahead?_leftOf {minutes : Int} (found : ahead? text = some (minutes, rest)) :
    LeftOf rest text := by
  unfold ahead? at found
  split at found
  next => cases found
  next c others =>
    split at found
    next =>
      cases found
      exact .cons List.suffix_rfl
    next =>
      split at found
      next =>
        rcases Option.bind_eq_some_iff.mp found with ⟨⟨hours, afterHours⟩, readHours, found⟩
        rcases Option.bind_eq_some_iff.mp found with ⟨minuteText, mark, found⟩
        rcases Option.bind_eq_some_iff.mp found with
          ⟨⟨minutes, afterMinutes⟩, readMinutes, found⟩
        cases found
        exact .cons ((fixedNumber?_suffix readMinutes).trans
          ((mark?_suffix mark).trans (fixedNumber?_suffix readHours)))
      next => cases found

theorem timeOfDay?_leftOf {time : Clock × Option Int}
    (found : timeOfDay? text = some (time, rest)) : LeftOf rest text := by
  unfold timeOfDay? at found
  rcases Option.bind_eq_some_iff.mp found with ⟨clockText, mark, found⟩
  rcases Option.bind_eq_some_iff.mp found with ⟨⟨clock, afterClock⟩, readClock, found⟩
  have left : LeftOf afterClock text := (clock?_leftOf readClock).trans_suffix (mark?_suffix mark)
  dsimp only at found
  split at found
  next zoned =>
    cases found
    exact left.of_suffix (ahead?_leftOf zoned).suffix
  next =>
    cases found
    exact left

theorem moment?_leftOf {moment : Option Moment}
    (found : moment? text = some (moment, rest)) : LeftOf rest text := by
  unfold moment? at found
  split at found
  next day =>
    have left := day?_leftOf day
    dsimp only at found
    split at found
    next timed =>
      cases found
      exact left.of_suffix (timeOfDay?_leftOf timed).suffix
    next =>
      cases found
      exact left
  next =>
    rcases Option.map_eq_some_iff.mp found with ⟨⟨clock, left⟩, read, same⟩
    cases same
    exact clock?_leftOf read

/-!
# Values
-/

theorem momentOrNumber_staysIn (text : Text) :
    StaysIn text (momentOrNumber text) fun answer => LeftOf answer.2 text := by
  unfold momentOrNumber
  split
  next found => exact moment?_leftOf found
  next => exact .stop _ List.suffix_rfl
  next => exact (number_staysIn text).map fun _ left => left

theorem scalar_staysIn (text : Text) :
    StaysIn text (scalar text) fun answer => LeftOf answer.2 text := by
  have quoted {opened : Text} {reading : Except Stop (Text × Text)}
      (stays : StaysIn opened reading fun answer => answer.2 <:+ opened)
      (left : LeftOf opened text) :
      StaysIn text (reading.map fun read => (Datum.text read.1, read.2))
        fun answer => LeftOf answer.2 text :=
    (stays.leftOf_of_suffix left).map fun _ left => left
  unfold scalar
  dsimp only
  split
  next rest =>
    exact quoted (stringOfLines_staysIn '"' rest) (.cons (List.suffix_append ['"', '"'] rest))
  next rest _ => exact quoted (basicString_staysIn false .plain rest) (.cons List.suffix_rfl)
  next rest =>
    exact quoted (stringOfLines_staysIn '\'' rest) (.cons (List.suffix_append ['\'', '\''] rest))
  next rest _ =>
    exact quoted (literalUpTo_staysIn ['\''] isForbidden rest) (.cons List.suffix_rfl)
  next rest => exact LeftOf.cons (List.suffix_append ['r', 'u', 'e'] rest)
  next rest => exact LeftOf.cons (List.suffix_append ['a', 'l', 's', 'e'] rest)
  next => exact momentOrNumber_staysIn text

/-- What every reader of values leaves of every text, as long as its budget lasts. -/
structure ValuesStayIn (budget : Nat) : Prop where
  value : ∀ levels text,
    StaysIn text (value budget levels text) fun answer => LeftOf answer.2 text
  items : ∀ levels text,
    StaysIn text (items budget levels text) fun answer => LeftOf answer.2 text
  fields : ∀ levels entries text,
    StaysIn text (fields budget levels entries text) fun answer => LeftOf answer.2 text
  assignment : ∀ levels text,
    StaysIn text (assignment budget levels text) fun answer => LeftOf answer.2 text

namespace ValuesStayIn

variable {budget : Nat}

theorem zero : ValuesStayIn 0 := by
  constructor
  · intro levels text
    rw [Toml.value]
    exact .stop _ List.suffix_rfl
  · intro levels text
    rw [Toml.items]
    exact .stop _ List.suffix_rfl
  · intro levels entries text
    rw [Toml.fields]
    exact .stop _ List.suffix_rfl
  · intro levels text
    rw [Toml.assignment]
    exact .stop _ List.suffix_rfl

variable (inner : ValuesStayIn budget)
include inner

theorem value_succ (levels : Nat) (text : Text) :
    StaysIn text (Toml.value (budget + 1) levels text) fun answer => LeftOf answer.2 text := by
  unfold Toml.value
  split
  next impossible => cases impossible
  next rest same =>
    cases same
    split
    · exact .stop _ (List.suffix_cons '[' rest)
    · refine ((skipVoid_staysIn false rest).of_suffix (List.suffix_cons '[' rest)
        fun _ within => within).bind ?_
      intro opened within
      have less : LeftOf opened ('[' :: rest) := .cons within
      refine ((inner.items _ opened).leftOf less.suffix).bind ?_
      intro answer left
      exact left
  next rest same =>
    cases same
    have within : skipSpaces rest <:+ rest := skipSpaces_suffix rest
    split
    · exact .stop _ (List.suffix_cons _ rest)
    · split
      next others closed =>
        rw [closed] at within
        exact LeftOf.cons ((List.suffix_cons _ others).trans within)
      next =>
        have less := LeftOf.cons (c := '\x7b') within
        exact (inner.fields _ _ _).leftOf less.suffix
  next same _ _ =>
    cases same
    exact scalar_staysIn _

theorem items_succ (levels : Nat) (text : Text) :
    StaysIn text (Toml.items (budget + 1) levels text) fun answer => LeftOf answer.2 text := by
  unfold Toml.items
  split
  next impossible => cases impossible
  next => exact LeftOf.cons List.suffix_rfl
  next same _ =>
    cases same
    refine (inner.value _ _).bind ?_
    rintro ⟨item, rest⟩ left
    refine ((skipVoid_staysIn false rest).of_suffix left.suffix fun _ within => within).bind ?_
    intro opened within
    have less := left.of_suffix within
    split
    next others =>
      have further := less.of_suffix (List.suffix_cons ',' others)
      refine ((skipVoid_staysIn false others).of_suffix further.suffix
        fun _ within => within).bind ?_
      intro others within
      have more := further.of_suffix within
      refine ((inner.items _ others).leftOf more.suffix).bind ?_
      rintro ⟨items, rest⟩ left
      exact left
    next others => exact less.of_suffix (List.suffix_cons ']' others)
    next => exact .stop _ less.suffix

theorem fields_succ (levels : Nat) (entries : Entries) (text : Text) :
    StaysIn text (Toml.fields (budget + 1) levels entries text)
      fun answer => LeftOf answer.2 text := by
  rw [Toml.fields]
  refine (inner.assignment levels text).bind ?_
  rintro ⟨⟨path, field⟩, rest⟩ left
  have less : LeftOf (skipSpaces rest) text := left.of_suffix (skipSpaces_suffix rest)
  dsimp only
  split
  next => exact .stop _ left.suffix
  next =>
    split
    next others separated =>
      rw [separated] at less
      have further : LeftOf (skipSpaces others) text :=
        less.of_suffix ((skipSpaces_suffix others).trans (List.suffix_cons ',' others))
      exact (inner.fields _ _ _).leftOf further.suffix
    next others closed =>
      rw [closed] at less
      exact less.of_suffix (List.suffix_cons _ others)
    next => exact .stop _ less.suffix

theorem assignment_succ (levels : Nat) (text : Text) :
    StaysIn text (Toml.assignment (budget + 1) levels text)
      fun answer => LeftOf answer.2 text := by
  rw [Toml.assignment]
  refine (key_staysIn text).bind ?_
  rintro ⟨path, rest⟩ left
  dsimp only at left ⊢
  split
  next others =>
    have less : LeftOf (skipSpaces others) text :=
      left.of_suffix ((skipSpaces_suffix others).trans (List.suffix_cons '=' others))
    refine ((inner.value levels (skipSpaces others)).leftOf less.suffix).bind ?_
    rintro ⟨assigned, rest⟩ left
    exact left
  next => exact .stop _ left.suffix

theorem succ : ValuesStayIn (budget + 1) :=
  ⟨inner.value_succ, inner.items_succ, inner.fields_succ, inner.assignment_succ⟩

end ValuesStayIn

theorem values_stayIn (budget : Nat) : ValuesStayIn budget := by
  induction budget with
  | zero => exact .zero
  | succ budget ih => exact ih.succ

/-!
# Documents
-/

namespace Reader

theorem openSection_staysIn (reader : Reader) (ofArray : Bool) (text : Text) :
    StaysIn text (reader.openSection ofArray text) fun answer => answer.2 <:+ text := by
  unfold openSection
  refine ((key_staysIn (skipSpaces text)).leftOf (skipSpaces_suffix text)).bind ?_
  rintro ⟨path, rest⟩ ⟨within, -⟩
  dsimp only at within ⊢
  generalize (if ofArray then Entries.append path reader.entries
    else Entries.declare path reader.entries) = opened
  cases opened with
  | error cause => exact .stop _ within
  | ok entries =>
      dsimp only
      split
      next others => exact (List.suffix_cons ']' others).trans within
      next others => exact (List.suffix_append [']', ']'] others).trans within
      next => exact .stop _ within
      next => exact .stop _ within

theorem assign_staysIn (reader : Reader) (levels : Nat) (text : Text) :
    StaysIn text (reader.assign levels text) fun answer => answer.2 <:+ text := by
  unfold assign
  refine ((values_stayIn _).assignment levels text).bind ?_
  rintro ⟨⟨path, assigned⟩, rest⟩ left
  dsimp only at left ⊢
  split
  next => exact .stop _ left.suffix
  next => exact left.suffix

theorem statement_staysIn (reader : Reader) (levels : Nat) (text : Text) :
    StaysIn text (reader.statement levels text) fun answer => answer.2 <:+ text := by
  unfold statement
  split
  next => exact List.suffix_rfl
  next rest =>
    exact (reader.openSection_staysIn true rest).suffix (List.suffix_append ['[', '['] rest)
  next rest _ => exact (reader.openSection_staysIn false rest).suffix (List.suffix_cons '[' rest)
  next =>
    split
    · exact List.suffix_rfl
    · split
      · exact reader.assign_staysIn levels _
      · exact .stop _ List.suffix_rfl

theorem statements_staysIn (levels budget : Nat) (reader : Reader) (text : Text) :
    StaysIn text (statements levels budget reader text) fun _ => True := by
  induction budget generalizing reader text with
  | zero => exact .stop _ List.suffix_rfl
  | succ budget ih =>
      rw [statements]
      refine ((reader.statement_staysIn levels (skipSpaces text)).suffix
        (skipSpaces_suffix text)).bind ?_
      rintro ⟨reader, rest⟩ within
      have behind : skipSpaces rest <:+ text := (skipSpaces_suffix rest).trans within
      refine ((skipComment_staysIn (skipSpaces rest)).suffix behind).bind ?_
      intro others within
      split
      next => trivial
      next later =>
        exact (ih reader later).of_suffix ((List.suffix_cons '\n' later).trans within)
          fun _ read => read
      next => exact .stop _ within

end Reader

/-- The place of a rest is that which follows all that is before it. -/
theorem placeOf_append (before : Text) (c : Char) (rest : Text) :
    ∃ row column : Nat, placeOf (before ++ c :: rest) (c :: rest) = .within row column ∧
      (Position.start.afterText before).line = row ∧
      (Position.start.afterText before).column = column := by
  rcases Position.start_afterText_follows before with ⟨-, lineOf, columnOf⟩
  have front : (before ++ c :: rest).take
      ((before ++ c :: rest).length - (c :: rest).length) = before := by
    rw [List.length_append, Nat.add_sub_cancel, List.take_left]
  refine ⟨before.count '\n' + 1, before.lastLine.length + 1, ?_, ?_, ?_⟩
  · rw [placeOf, front, Text.lastLine, List.length_reverse]
    rfl
  · rw [lineOf]
    omega
  · rw [columnOf]
    omega

/--
The fault of a document is at its end, or at the line and the column of a character
of it.
-/
theorem read_flaw_is_in_document {levels : Nat} {document : Text} {flaw : Flaw}
    (fails : read levels document = .error flaw) :
    flaw.place = .atEnd ∨
      ∃ before c rest, joinLineEnds document = before ++ c :: rest ∧
        ∃ row column : Nat, flaw.place = .within row column ∧
          (Position.start.afterText before).line = row ∧
          (Position.start.afterText before).column = column := by
  have stays := Reader.statements_staysIn levels ((joinLineEnds document).length + 1) {}
    (joinLineEnds document)
  unfold read at fails
  dsimp only at fails
  split at fails
  next => cases fails
  next stopped found =>
    cases fails
    rw [found] at stays
    rcases stays with ⟨before, parts⟩
    cases unread : stopped.rest with
    | nil =>
        left
        rw [Stop.flaw, unread]
        rfl
    | cons c rest =>
        right
        rw [unread] at parts
        refine ⟨before, c, rest, parts.symm, ?_⟩
        rw [Stop.flaw, unread, ← parts]
        exact placeOf_append before c rest

end Toml
end QuotedWords
