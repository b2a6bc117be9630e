import QuotedWords.Dialect.Settings
import QuotedWords.Proofs.Checking
import QuotedWords.Proofs.Datum.Limit
import QuotedWords.Proofs.Table

/-!
# Checking the parts of a dialect

The parts of a dialect are accepted exactly when each of them is what it has to be,
and then the dialect holds them, entry by entry.  Otherwise the first of all their
faults is reported, in the order in which the parts are looked at.
-/

namespace QuotedWords

/-!
# The parts that make a dialect
-/

theorem Scalar.eq_of_text_eq (c other : Char)
    (same : Scalar.text [c] = Scalar.text [other]) :
    c = other := by
  cases same
  rfl

namespace Dialect

def quotePart (entry : Char × QuoteRule) : Scalar × Datum :=
  (.text [entry.1], .list [.text [entry.2.close], .mode entry.2.mode])

def escapePart (entry : Char × Char) : Scalar × Datum :=
  (.text [entry.1], .text [entry.2])

def leaderPart : Option Char → Datum
  | none => .null
  | some c => .text [c]

/-- These parts make this dialect: they hold its entries, in their order, and its leader. -/
structure MadeFrom (dialect : Dialect) (parts : DialectParts) : Prop where
  quotes_eq : parts.quotes.entries = dialect.quotes.entries.map quotePart
  escapes_eq : parts.escapes.entries = dialect.escapes.entries.map escapePart
  leader_eq : parts.leader = leaderPart dialect.leader

end Dialect

namespace Datum

variable {datum : Datum} {c : Char} {mode : QuoteMode}

theorem char?_eq_some_iff : datum.char? = some c ↔ datum = .text [c] := by
  constructor
  · intro found
    unfold char? at found
    split at found
    next => cases found; rfl
    next => cases found
  · rintro rfl
    rfl

theorem mode?_eq_some_iff : datum.mode? = some mode ↔ datum = .mode mode := by
  constructor
  · intro found
    unfold mode? at found
    split at found
    next => cases found; rfl
    next => cases found
  · rintro rfl
    rfl

theorem isNull_iff : datum.isNull = true ↔ datum = .null := by
  constructor
  · intro null
    unfold isNull at null
    split at null
    next => rfl
    next => cases null
  · rintro rfl
    rfl

/-- Neither a character of a text nor a key of a table is a mode, so only a list ends in one. -/
theorem pair?_eq_some_mode_iff {first : Datum} :
    datum.pair? = some (first, .mode mode) ↔ datum = .list [first, .mode mode] := by
  constructor
  · intro falls
    unfold pair? at falls
    split at falls
    next => cases falls; rfl
    next => cases falls
    next => cases falls
    next => cases falls
  · rintro rfl
    rfl

end Datum

namespace DialectParts

/-!
# One part
-/

theorem single_of_char {value : Datum} {fault : Datum → DialectFault} {c : Char}
    (char : value.char? = some c) :
    single value fault = .ok c := by
  rw [single, char]

theorem single_of_not_char {value : Datum} {fault : Datum → DialectFault}
    (other : value.char? = none) :
    single value fault = .error (fault value) := by
  rw [single, other]

theorem single_eq_ok_iff {value : Datum} {fault : Datum → DialectFault} {c : Char} :
    single value fault = .ok c ↔ value = .text [c] := by
  rw [← Datum.char?_eq_some_iff]
  cases char : value.char? with
  | none =>
      rw [single_of_not_char char]
      exact ⟨nofun, nofun⟩
  | some other =>
      rw [single_of_char char, Except.ok.injEq, Option.some.injEq]

theorem single_reports (value : Datum) (fault : Datum → DialectFault) :
    ReportsFirst (single value fault)
      (if value.char?.isSome then [] else [fault value]) := by
  cases char : value.char? with
  | none =>
      rw [single_of_not_char char]
      exact .error (fault value) []
  | some c =>
      rw [single_of_char char]
      exact .ok c

variable {c : Char} {pair close mode : Datum}

theorem quote_of_not_char {opener : Scalar}
    (other : (Datum.scalar opener).char? = none) (pair : Datum) :
    quote opener pair = .error (.badOpener (.scalar opener)) := by
  unfold quote
  rw [single_of_not_char other]
  rfl

theorem quote_of_not_pair (whole : pair.pair? = none) :
    quote (.text [c]) pair = .error (.badPair c pair) := by
  unfold quote
  rw [single_of_char rfl, whole]
  rfl

theorem quote_of_mode {known : QuoteMode}
    (falls : pair.pair? = some (close, mode))
    (isMode : mode.mode? = some known) :
    quote (.text [c]) pair =
      (single close (.badCloser c)).map fun close => (c, ⟨close, known⟩) := by
  unfold quote
  rw [single_of_char rfl, falls]
  show (single close (.badCloser c) >>= fun close => _) = _
  rw [isMode]
  rfl

theorem quote_of_not_mode
    (falls : pair.pair? = some (close, mode))
    (other : mode.mode? = none) :
    quote (.text [c]) pair =
      single close (.badCloser c) >>= fun _ => .error (.badMode c mode) := by
  unfold quote
  rw [single_of_char rfl, falls]
  show (single close (.badCloser c) >>= fun close => _) = _
  rw [other]

theorem quoteFaults_of_not_char {opener : Scalar}
    (other : (Datum.scalar opener).char? = none) (pair : Datum) :
    quoteFaults opener pair = [.badOpener (.scalar opener)] := by
  unfold quoteFaults
  split
  next => cases other
  next => rfl

theorem quoteFaults_of_not_pair (whole : pair.pair? = none) :
    quoteFaults (.text [c]) pair = [.badPair c pair] := by
  unfold quoteFaults
  rw [whole]

theorem quoteFaults_of_pair (falls : pair.pair? = some (close, mode)) :
    quoteFaults (.text [c]) pair =
      (if close.char?.isSome then [] else [.badCloser c close]) ++
        (if mode.mode?.isSome then [] else [.badMode c mode]) := by
  unfold quoteFaults
  rw [falls]

theorem quote_reports (opener : Scalar) (pair : Datum) :
    ReportsFirst (quote opener pair) (quoteFaults opener pair) := by
  cases char : (Datum.scalar opener).char? with
  | none =>
      rw [quote_of_not_char char, quoteFaults_of_not_char char]
      exact .error _ []
  | some c =>
      cases Datum.char?_eq_some_iff.mp char
      cases falls : pair.pair? with
      | none =>
          rw [quote_of_not_pair falls, quoteFaults_of_not_pair falls]
          exact .error _ []
      | some members =>
          cases known : members.2.mode? with
          | none =>
              rw [quote_of_not_mode falls known, quoteFaults_of_pair falls, known]
              exact (single_reports members.1 _).bind fun _ _ => .error _ []
          | some mode =>
              rw [quote_of_mode falls known, quoteFaults_of_pair falls, known]
              show ReportsFirst _ (_ ++ [])
              rw [List.append_nil]
              exact (single_reports members.1 _).map _

theorem quote_eq_ok_iff {opener : Scalar} {entry : Char × QuoteRule} :
    quote opener pair = .ok entry ↔ (opener, pair) = Dialect.quotePart entry := by
  constructor
  · intro accepted
    unfold quote at accepted
    rcases bind_eq_ok_iff.mp accepted with ⟨c, opens, rest⟩
    cases single_eq_ok_iff.mp opens
    cases falls : pair.pair? with
    | none =>
        rw [falls] at rest
        cases rest
    | some members =>
        rcases members with ⟨close, mode⟩
        rw [falls] at rest
        rcases bind_eq_ok_iff.mp rest with ⟨closer, closes, known⟩
        cases isMode : mode.mode? with
        | none =>
            rw [isMode] at known
            cases known
        | some rule =>
            rw [isMode] at known
            cases known
            rw [single_eq_ok_iff.mp closes, Datum.mode?_eq_some_iff.mp isMode,
              Datum.pair?_eq_some_mode_iff] at falls
            rw [falls]
            rfl
  · rintro ⟨⟩
    rfl

theorem escape_of_not_char {key : Scalar}
    (other : (Datum.scalar key).char? = none) (replacement : Datum) :
    escape key replacement = .error (.badEscapeKey (.scalar key)) := by
  unfold escape
  rw [single_of_not_char other]
  rfl

theorem escape_of_char (c : Char) (replacement : Datum) :
    escape (.text [c]) replacement =
      (single replacement (.badReplacement c)).map fun meant => (c, meant) := by
  unfold escape
  rw [single_of_char rfl]
  rfl

theorem escapeFaults_of_not_char {key : Scalar}
    (other : (Datum.scalar key).char? = none) (replacement : Datum) :
    escapeFaults key replacement = [.badEscapeKey (.scalar key)] := by
  unfold escapeFaults
  split
  next => cases other
  next => rfl

theorem escape_reports (key : Scalar) (replacement : Datum) :
    ReportsFirst (escape key replacement) (escapeFaults key replacement) := by
  cases char : (Datum.scalar key).char? with
  | none =>
      rw [escape_of_not_char char, escapeFaults_of_not_char char]
      exact .error _ []
  | some c =>
      cases Datum.char?_eq_some_iff.mp char
      rw [escape_of_char]
      exact (single_reports replacement _).map _

theorem escape_eq_ok_iff {key : Scalar} {replacement : Datum} {entry : Char × Char} :
    escape key replacement = .ok entry ↔ (key, replacement) = Dialect.escapePart entry := by
  constructor
  · intro accepted
    unfold escape at accepted
    rcases bind_eq_ok_iff.mp accepted with ⟨c, isKey, rest⟩
    rcases bind_eq_ok_iff.mp rest with ⟨meant, stands, ⟨⟩⟩
    cases single_eq_ok_iff.mp isKey
    rw [single_eq_ok_iff.mp stands]
    rfl
  · rintro ⟨⟩
    rfl

theorem checkedLeader_of_not_null {leader : Datum} (given : leader.isNull = false) :
    checkedLeader leader = (single leader .badLeader).map some := by
  rw [checkedLeader, given]
  rfl

theorem checkedLeader_reports (leader : Datum) :
    ReportsFirst (checkedLeader leader) (leaderFaults leader) := by
  cases null : leader.isNull with
  | true =>
      cases Datum.isNull_iff.mp null
      exact .ok none
  | false =>
      rw [checkedLeader_of_not_null null, leaderFaults, null, Bool.false_or]
      exact (single_reports leader _).map some

theorem checkedLeader_eq_ok_iff {leader : Datum} {found : Option Char} :
    checkedLeader leader = .ok found ↔ leader = Dialect.leaderPart found := by
  constructor
  · intro accepted
    cases null : leader.isNull with
    | true =>
        cases Datum.isNull_iff.mp null
        cases accepted
        rfl
    | false =>
        rw [checkedLeader_of_not_null null] at accepted
        rcases map_eq_ok_iff.mp accepted with ⟨c, leads, rfl⟩
        exact single_eq_ok_iff.mp leads
  · rintro rfl
    cases found with
    | none => rfl
    | some c => rfl

/-!
# All parts
-/

variable {parts : DialectParts} {dialect : Dialect}

theorem toDialect_reports (parts : DialectParts) :
    ReportsFirst parts.toDialect parts.faults := by
  have quotes := ReportsFirst.mapM fun entry (_ : entry ∈ parts.quotes.entries) =>
    quote_reports entry.1 entry.2
  have escapes := ReportsFirst.mapM fun entry (_ : entry ∈ parts.escapes.entries) =>
    escape_reports entry.1 entry.2
  have leader := checkedLeader_reports parts.leader
  rw [faults, List.append_assoc, ← List.append_nil (leaderFaults parts.leader)]
  exact quotes.bind fun _ _ => escapes.bind fun _ _ => leader.bind fun _ _ => .ok _

theorem quotes_eq_ok_iff {quotes : List (Char × QuoteRule)} :
    parts.quotes.entries.mapM (fun entry => quote entry.1 entry.2) = .ok quotes ↔
      parts.quotes.entries = quotes.map Dialect.quotePart :=
  mapM_eq_ok_iff fun _ _ => quote_eq_ok_iff

theorem escapes_eq_ok_iff {escapes : List (Char × Char)} :
    parts.escapes.entries.mapM (fun entry => escape entry.1 entry.2) = .ok escapes ↔
      parts.escapes.entries = escapes.map Dialect.escapePart :=
  mapM_eq_ok_iff fun _ _ => escape_eq_ok_iff

/-- Different parts are for different characters. -/
theorem nodup_of_made {α β : Type} {table : Table Scalar β} {entries : List (Char × α)}
    {make : Char × α → Scalar × β}
    (keys : ∀ entry, (make entry).1 = .text [entry.1])
    (made : table.entries = entries.map make) :
    (entries.map Prod.fst).Nodup := by
  have nodup := table.nodup_keys
  rw [made, List.map_map, show Prod.fst ∘ make = (fun c => .text [c]) ∘ Prod.fst from
    funext keys, ← List.map_map] at nodup
  refine List.Pairwise.of_map _ ?_ nodup
  intro c other apart same
  exact apart (congrArg (fun c => Scalar.text [c]) same)

theorem toDialect_eq_ok_iff :
    parts.toDialect = .ok dialect ↔ dialect.MadeFrom parts := by
  unfold toDialect
  simp only [bind_eq_ok_iff, quotes_eq_ok_iff, escapes_eq_ok_iff, checkedLeader_eq_ok_iff]
  constructor
  · rintro ⟨quotes, madeQuotes, escapes, madeEscapes, leader, madeLeader, ⟨⟩⟩
    constructor
    · rw [Table.entries_ofList (nodup_of_made (fun _ => rfl) madeQuotes)]
      exact madeQuotes
    · rw [Table.entries_ofList (nodup_of_made (fun _ => rfl) madeEscapes)]
      exact madeEscapes
    · exact madeLeader
  · intro made
    refine ⟨_, made.quotes_eq, _, made.escapes_eq, _, made.leader_eq, ?_⟩
    rw [Table.ofList_entries, Table.ofList_entries]

/-- The parts are what they have to be. -/
structure WellFormed (parts : DialectParts) : Prop where
  /-- Openers and closers are single characters, and what falls into two ends in a mode. -/
  quotes : ∀ opener pair, (opener, pair) ∈ parts.quotes.entries →
    ∃ c close mode, opener = .text [c] ∧ pair.pair? = some (.text [close], .mode mode)
  escapes : ∀ key replacement, (key, replacement) ∈ parts.escapes.entries →
    ∃ c meant, key = .text [c] ∧ replacement = .text [meant]
  leader : parts.leader = .null ∨ ∃ c, parts.leader = .text [c]

theorem quoteFaults_eq_nil_iff {opener : Scalar} :
    quoteFaults opener pair = [] ↔
      ∃ c close mode, opener = .text [c] ∧
        pair.pair? = some (.text [close], .mode mode) := by
  rw [← (quote_reports opener pair).exists_ok_iff]
  constructor
  · rintro ⟨entry, accepted⟩
    cases quote_eq_ok_iff.mp accepted
    exact ⟨entry.1, entry.2.close, entry.2.mode, rfl, rfl⟩
  · rintro ⟨c, close, mode, rfl, falls⟩
    rw [Datum.pair?_eq_some_mode_iff] at falls
    exact ⟨(c, ⟨close, mode⟩), quote_eq_ok_iff.mpr (by rw [falls]; rfl)⟩

theorem escapeFaults_eq_nil_iff {key : Scalar} {replacement : Datum} :
    escapeFaults key replacement = [] ↔
      ∃ c meant, key = .text [c] ∧ replacement = .text [meant] := by
  rw [← (escape_reports key replacement).exists_ok_iff]
  constructor
  · rintro ⟨entry, accepted⟩
    cases escape_eq_ok_iff.mp accepted
    exact ⟨entry.1, entry.2, rfl, rfl⟩
  · rintro ⟨c, meant, rfl, rfl⟩
    exact ⟨(c, meant), rfl⟩

theorem leaderFaults_eq_nil_iff {leader : Datum} :
    leaderFaults leader = [] ↔ leader = .null ∨ ∃ c, leader = .text [c] := by
  rw [← (checkedLeader_reports leader).exists_ok_iff]
  constructor
  · rintro ⟨found, accepted⟩
    rw [checkedLeader_eq_ok_iff.mp accepted]
    cases found with
    | none => exact Or.inl rfl
    | some c => exact Or.inr ⟨c, rfl⟩
  · rintro (rfl | ⟨c, rfl⟩)
    · exact ⟨none, rfl⟩
    · exact ⟨some c, rfl⟩

theorem faults_eq_nil_iff : parts.faults = [] ↔ parts.WellFormed := by
  rw [faults, List.append_eq_nil_iff, List.append_eq_nil_iff, List.flatMap_eq_nil_iff,
    List.flatMap_eq_nil_iff, leaderFaults_eq_nil_iff]
  constructor
  · rintro ⟨⟨quotes, escapes⟩, leader⟩
    constructor
    · intro opener pair member
      exact quoteFaults_eq_nil_iff.mp (quotes _ member)
    · intro key replacement member
      exact escapeFaults_eq_nil_iff.mp (escapes _ member)
    · exact leader
  · rintro ⟨quotes, escapes, leader⟩
    refine ⟨⟨?_, ?_⟩, leader⟩
    · intro entry member
      exact quoteFaults_eq_nil_iff.mpr (quotes _ _ member)
    · intro entry member
      exact escapeFaults_eq_nil_iff.mpr (escapes _ _ member)

end DialectParts

/-!
# Faults and their messages
-/

namespace DialectFault

variable {levels : Nat} {fault : DialectFault}

/-- What the fault is about, if anything, is shown in so many levels. -/
def CanBeShown (levels : Nat) (fault : DialectFault) : Prop :=
  ∀ got, fault.got? = some got → got.FitsIn levels

theorem limitWithin?_eq_none_iff :
    fault.limitWithin? levels = none ↔ fault.CanBeShown levels := by
  rw [limitWithin?, Option.bind_eq_none_iff]
  constructor
  · intro within got found
    exact Datum.limitWithin?_eq_none_iff.mp (within got found)
  · intro fits got found
    exact Datum.limitWithin?_eq_none_iff.mpr (fits got found)

theorem messageWithin_eq_ok_iff :
    fault.messageWithin levels = .ok fault.message ↔ fault.CanBeShown levels := by
  rw [← limitWithin?_eq_none_iff, messageWithin]
  cases fault.limitWithin? levels with
  | none => exact ⟨fun _ => rfl, fun _ => rfl⟩
  | some limit =>
      constructor
      · intro shown
        cases shown
      · intro within
        cases within

theorem messageWithin_of_limit {limit : Datum.Limit}
    (limited : fault.limitWithin? levels = some limit) :
    fault.messageWithin levels = .error limit := by
  rw [messageWithin, limited]

theorem messageWithin_badLeader_nested {depth : Nat} (deep : levels ≤ depth) :
    (badLeader (Datum.nested depth)).messageWithin levels = .error .depth :=
  messageWithin_of_limit (Datum.limitWithin?_nested deep)

end DialectFault

namespace DialectParts

/--
Parts make a dialect exactly when they are well formed, and then the dialect holds
just these parts.  Otherwise the first of their faults is reported: of every quote in
turn its opener, its pair, its closer and its mode, of every escape its key and its
replacement, and last the leader.  The report has its message unless what it is about
is too deep for the levels in which it is shown, or holds too long an integer.
-/
theorem parts_make_dialect_or_report_first_fault (parts : DialectParts) :
    ((∃ dialect, parts.toDialect = .ok dialect) ↔ parts.WellFormed) ∧
    (∀ dialect, parts.toDialect = .ok dialect ↔ dialect.MadeFrom parts) ∧
    ∀ fault,
      (parts.toDialect = .error fault ↔ parts.faults.head? = some fault) ∧
      ∀ levels,
        (fault.messageWithin levels = .ok fault.message ↔ fault.CanBeShown levels) := by
  refine ⟨?_, ?_, ?_⟩
  · rw [(toDialect_reports parts).exists_ok_iff, faults_eq_nil_iff]
  · intro dialect
    exact toDialect_eq_ok_iff
  · intro fault
    exact ⟨toDialect_reports parts fault, fun _ => DialectFault.messageWithin_eq_ok_iff⟩

/--
A pair that is a text falls into two, but its mode is none; that is reported before
the key and the leader, which are at fault as well.
-/
theorem mode_is_reported_before_key_and_leader :
    let parts : DialectParts :=
      { quotes := .ofList
          [(.text ['"'], .list [.text ['"'], .mode .parseEscapes]),
           (.text ['<'], .text "bc".toList)]
        escapes := .ofList [(.null, .text ['n'])]
        leader := .text "ab".toList }
    ¬ parts.WellFormed ∧ parts.toDialect = .error (.badMode '<' (.text ['c'])) ∧
      (DialectFault.badMode '<' (.text ['c'])).messageWithin 1 =
        .ok "invalid quote mode for '<': 'c'".toList := by
  intro parts
  rcases parts_make_dialect_or_report_first_fault parts with ⟨accepts, -, reports⟩
  rcases reports (.badMode '<' (.text ['c'])) with ⟨first, shows⟩
  have fails : parts.toDialect = .error (.badMode '<' (.text ['c'])) := first.mpr rfl
  refine ⟨?_, fails, ?_⟩
  · intro wellFormed
    rcases accepts.mpr wellFormed with ⟨dialect, accepted⟩
    cases accepted.symm.trans fails
  · have message : (DialectFault.badMode '<' (.text ['c'])).message =
        "invalid quote mode for '<': 'c'".toList := by
      decide +kernel
    rw [← message, shows]
    rintro _ ⟨⟩
    apply Datum.FitsIn.scalar
    intro number same
    cases same

theorem toDialect_of_nested_leader {depth : Nat} (positive : 0 < depth) :
    ({ leader := Datum.nested depth } : DialectParts).toDialect =
      .error (.badLeader (Datum.nested depth)) := by
  cases depth with
  | zero => cases positive
  | succ depth => rfl

/--
A leader that lies deeper than there are levels is found to be none, but no message
says so.
-/
theorem deep_leader_is_reported_without_message :
    let parts : DialectParts := { leader := Datum.nested 1300 }
    ¬ parts.WellFormed ∧ parts.toDialect = .error (.badLeader parts.leader) ∧
      ∀ levels ≤ 1300,
        (DialectFault.badLeader parts.leader).messageWithin levels = .error .depth := by
  refine ⟨?_, toDialect_of_nested_leader (by decide), ?_⟩
  · rintro ⟨_, _, null | ⟨c, char⟩⟩
    · exact Datum.nested_ne_scalar (by decide) _ null
    · exact Datum.nested_ne_scalar (by decide) _ char
  · intro levels few
    exact DialectFault.messageWithin_badLeader_nested few

end DialectParts
end QuotedWords
