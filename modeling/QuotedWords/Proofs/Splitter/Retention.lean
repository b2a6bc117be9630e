import QuotedWords.Proofs.Line.Blame
import QuotedWords.Proofs.Splitter.Transcript
import QuotedWords.Proofs.Text.Places

/-!
# What a splitter remembers of its input

A splitter counts all that it has taken, but keeps only what follows the last
newline that was read outside of quotations and escapes.  Every quotation and
every escape that is open began in the part that is kept, so a failure can
always be shown in it.
-/

namespace QuotedWords

/-!
# Where open quotations and escapes began
-/

def Context.starts : Context → List Position
  | .bare => []
  | .quoted quote => [quote.start]

def State.starts : State → List Position
  | .within context => context.starts
  | .escaping resume leader => leader :: resume.starts

/-- After a step something is open that was open before, or that begins with the step. -/
theorem Means.starts {dialect : Dialect} {c : Char} {position : Position} {state : State}
    {action : Action} {splitter : Splitter}
    (means : Means dialect c position state action)
    (same : splitter.state = state) :
    ∀ start ∈ (splitter.perform action).1.state.starts,
      start ∈ state.starts ∨ start = position := by
  intro start member
  cases means with
  | separate blank =>
      change start ∈ splitter.separate.state.starts at member
      rw [Splitter.separate_state, same] at member
      exact Or.inl member
  | openQuote notBlank opens => exact Or.inr (List.mem_singleton.mp member)
  | closeQuote closes => cases member
  | lead leads => exact (List.mem_cons.mp member).symm
  | keep plain =>
      change start ∈ splitter.state.starts at member
      rw [same] at member
      exact Or.inl member
  | replace resolves => exact Or.inl (List.mem_cons_of_mem _ member)
  | reject unresolved =>
      change start ∈ splitter.state.starts at member
      rw [same] at member
      exact Or.inl member

namespace Splitter

variable {dialect : Dialect} {splitter current : Splitter} {taken dropped front : Text}

theorem step_starts (dialect : Dialect) (splitter : Splitter) (c : Char) :
    ∀ start ∈ (splitter.step dialect c).1.state.starts,
      start ∈ splitter.state.starts ∨ start = splitter.window.next := by
  have means := Means.of_action dialect c splitter.window.next splitter.state
  rw [step_eq_perform means]
  exact means.starts rfl

theorem step_bare_newline (bare : splitter.state = .within .bare) :
    (splitter.step dialect '\n').1.state = .within .bare := by
  have means : Means dialect '\n' splitter.window.next splitter.state .separate := by
    rw [bare]
    exact .separate Text.isBlank_newline
  rw [step_eq_perform means]
  exact (separate_state _).trans bare

theorem isBare_iff {state : State} : state.isBare = true ↔ state = .within .bare := by
  unfold State.isBare
  split
  next => simp
  next other => exact ⟨nofun, fun bare => (other bare).elim⟩

end Splitter

/-!
# The part that is kept
-/

namespace Splitter

variable {dialect : Dialect} {splitter current : Splitter} {taken dropped front : Text}

/--
What a splitter remembers of the text it has taken, of which it has dropped a
part at the front.
-/
structure Remembers (dialect : Dialect) (taken dropped : Text) (splitter : Splitter) :
    Prop where
  taken_eq : taken = dropped ++ splitter.window.text.toList
  next_follows : splitter.window.next.Follows taken
  firstLine_eq : splitter.window.firstLine = 1 + dropped.count '\n'
  /-- The window starts after a newline that was read outside of quotations and escapes. -/
  dropped_eq : dropped = [] ∨
    ∃ before, dropped = before ++ ['\n'] ∧ dialect.LeavesIn before (.within .bare)
  /-- No newline in the window was read there. -/
  not_bare : ∀ before rest, splitter.window.text.toList = before ++ '\n' :: rest →
    ¬ dialect.LeavesIn (dropped ++ before) (.within .bare)
  starts_follow : ∀ start ∈ splitter.state.starts,
    ∃ before c after, splitter.window.text.toList = before ++ c :: after ∧
      start.Follows (dropped ++ before)

theorem fresh_remembers (dialect : Dialect) : fresh.Remembers dialect [] [] where
  taken_eq := rfl
  next_follows := ⟨rfl, rfl, rfl⟩
  firstLine_eq := rfl
  dropped_eq := Or.inl rfl
  not_bare before rest parts := by simp [fresh] at parts
  starts_follow := nofun

theorem step_next_follows (reads : fresh.read dialect front = (current, none)) (c : Char) :
    (current.step dialect c).1.window.next.Follows (front ++ [c]) := by
  rw [step_next, read_next reads]
  change ((Position.start.afterText front).after c).Follows (front ++ [c])
  rw [← Position.afterText_append_singleton]
  exact Position.start_afterText_follows (front ++ [c])

/-- A newline outside of quotations and escapes empties the window. -/
theorem step_remembers_of_bare_newline
    (reads : fresh.read dialect front = (current, none))
    (bare : current.state = .within .bare) :
    (current.step dialect '\n').1.Remembers dialect (front ++ ['\n']) (front ++ ['\n']) := by
  have next := step_next_follows reads '\n'
  have pushed : (current.step dialect '\n').1.window =
      { text := #[], firstLine := (current.window.next.after '\n').line,
        next := current.window.next.after '\n' } := by
    rw [step_window]
    exact if_pos ⟨rfl, isBare_iff.mpr bare⟩
  have bareAfter : (current.step dialect '\n').1.state = .within .bare :=
    step_bare_newline bare
  rw [pushed] at next
  constructor
  · simp [pushed]
  · rw [pushed]
    exact next
  · rw [pushed]
    exact next.line_eq
  · exact Or.inr ⟨front, rfl, Dialect.leavesIn_iff.mpr ⟨current, reads, bare⟩⟩
  · intro before rest parts
    simp [pushed] at parts
  · rw [bareAfter]
    nofun

/-- Every other character is added to the window. -/
theorem Remembers.step_of_kept {c : Char}
    (remembers : current.Remembers dialect front dropped)
    (reads : fresh.read dialect front = (current, none))
    (other : ¬ (c = '\n' ∧ current.state = .within .bare)) :
    (current.step dialect c).1.Remembers dialect (front ++ [c]) dropped := by
  have pushed : (current.step dialect c).1.window =
      { current.window with
        text := current.window.text.push c, next := current.window.next.after c } := by
    rw [step_window]
    exact if_neg fun newline => other ⟨newline.1, isBare_iff.mp newline.2⟩
  have text : (current.step dialect c).1.window.text.toList =
      current.window.text.toList ++ [c] := by
    rw [pushed, Array.toList_push]
  constructor
  · rw [text, ← List.append_assoc, ← remembers.taken_eq]
  · exact step_next_follows reads c
  · rw [pushed]
    exact remembers.firstLine_eq
  · exact remembers.dropped_eq
  · intro before rest parts leaves
    rw [text] at parts
    -- The newline is the character of this step, or it was in the window before.
    cases rest using List.reverseRecOn with
    | nil =>
        rcases List.append_inj' parts rfl with ⟨rfl, last⟩
        rw [← remembers.taken_eq] at leaves
        rcases Dialect.leavesIn_iff.mp leaves with ⟨reached, same, bare⟩
        cases reads.symm.trans same
        exact other ⟨List.singleton_inj.mp last, bare⟩
    | append_singleton rest last =>
        rw [← List.cons_append, ← List.append_assoc] at parts
        exact remembers.not_bare before rest (List.append_inj' parts rfl).1 leaves
  · intro start member
    rw [text]
    rcases step_starts dialect current c start member with old | rfl
    · rcases remembers.starts_follow start old with ⟨before, d, after, parts, follows⟩
      exact ⟨before, d, after ++ [c], by simp [parts], follows⟩
    · refine ⟨current.window.text.toList, c, [], rfl, ?_⟩
      rw [← remembers.taken_eq]
      exact remembers.next_follows

theorem Remembers.step
    (remembers : current.Remembers dialect front dropped)
    (reads : fresh.read dialect front = (current, none)) (c : Char) :
    ∃ rest, (current.step dialect c).1.Remembers dialect (front ++ [c]) rest := by
  by_cases newline : c = '\n' ∧ current.state = .within .bare
  · rcases newline with ⟨rfl, bare⟩
    exact ⟨_, step_remembers_of_bare_newline reads bare⟩
  · exact ⟨dropped, remembers.step_of_kept reads newline⟩

/-- All that is remembered is in the window and the state. -/
theorem Remembers.of_eq
    (remembers : current.Remembers dialect taken dropped)
    (sameWindow : splitter.window = current.window)
    (sameState : splitter.state = current.state) :
    splitter.Remembers dialect taken dropped := by
  constructor
  · rw [sameWindow]
    exact remembers.taken_eq
  · rw [sameWindow]
    exact remembers.next_follows
  · rw [sameWindow]
    exact remembers.firstLine_eq
  · exact remembers.dropped_eq
  · rw [sameWindow]
    exact remembers.not_bare
  · rw [sameWindow, sameState]
    exact remembers.starts_follow

theorem conclude_window (splitter : Splitter) :
    splitter.conclude.1.window = splitter.window := by
  unfold conclude
  split
  · rfl
  · rfl
  · exact separate_window _

theorem conclude_state (splitter : Splitter) :
    splitter.conclude.1.state = splitter.state := by
  unfold conclude
  split
  · rfl
  · rfl
  · exact separate_state _

end Splitter

namespace Transcript

variable {dialect : Dialect} {transcript : Transcript}

theorem Sound.read_remembers (sound : transcript.Sound dialect) :
    ∃ dropped, (Splitter.fresh.read dialect transcript.taken).1.Remembers dialect
      transcript.taken dropped := by
  refine sound.invariant
    (fun taken splitter => ∃ dropped, splitter.Remembers dialect taken dropped)
    ⟨[], Splitter.fresh_remembers dialect⟩ ?_
  rintro front current c reads ⟨dropped, remembers⟩
  exact remembers.step reads c

theorem Sound.splitter_remembers (sound : transcript.Sound dialect) :
    ∃ dropped, (transcript.splitter dialect).Remembers dialect transcript.taken dropped := by
  rcases sound.read_remembers with ⟨dropped, remembers⟩
  refine ⟨dropped, ?_⟩
  unfold splitter
  split
  next => exact remembers.of_eq (Splitter.conclude_window _) (Splitter.conclude_state _)
  next => exact remembers

end Transcript

/-!
# Failures stand in the part that is kept
-/

namespace Dialect

variable {dialect : Dialect} {text : Text} {failure : Failure}

theorem failure_of_words
    (fails : dialect.words text = .error failure) :
    failure.source = (Splitter.fresh.read dialect text).1.window.text.toList ∧
      failure.sourceLine = (Splitter.fresh.read dialect text).1.window.firstLine ∧
      failure.position ∈ (Splitter.fresh.read dialect text).1.state.starts := by
  rcases read_or_conclude_of_words fails with ⟨last, reading⟩ | ⟨last, reading, concludes⟩
  · rw [reading]
    rcases Splitter.exists_step_of_read_failed reading with
      ⟨front, c, rest, middle, parts, reads, steps⟩
    rcases Splitter.step_failed_iff.mp steps with
      ⟨resume, leader, escaping, unresolved, failed⟩
    cases failed
    refine ⟨rfl, rfl, ?_⟩
    change leader ∈ middle.state.starts
    rw [escaping]
    exact List.mem_cons_self
  · rw [reading]
    cases state : last.state with
    | within context =>
        cases context with
        | bare =>
            unfold Splitter.conclude at concludes
            simp [state] at concludes
        | quoted quote =>
            cases (Splitter.conclude_quoted state).symm.trans concludes
            exact ⟨rfl, rfl, List.mem_singleton.mpr rfl⟩
    | escaping resume leader =>
        cases (Splitter.conclude_escaping state).symm.trans concludes
        exact ⟨rfl, rfl, List.mem_cons_self⟩

end Dialect

/--
The failure stands at this character of the text taken: counted from the end of
the text in its source, and by line and column in the source as in the text.
-/
structure Failure.StandsAt (failure : Failure) (taken : Text) (c : Char) : Prop where
  source_suffix : failure.source <:+ taken
  dropped_le : (taken.length - failure.source.length : Int) ≤ failure.position.offset
  source_get : failure.source[(failure.position.offset -
    (taken.length - failure.source.length)).toNat]? = some c
  sourceLine_le : failure.sourceLine ≤ failure.position.line
  line_get : ∃ row,
    (Text.newlineEnded failure.source)[(failure.position.line -
      failure.sourceLine).toNat]? = some row ∧
    (Text.newlineEnded taken)[(failure.position.line - 1).toNat]? = some row ∧
    row[(failure.position.column - 1).toNat]? = some c

namespace Splitter

variable {dialect : Dialect} {splitter : Splitter} {taken dropped : Text}

theorem Remembers.lastLine_append (remembers : splitter.Remembers dialect taken dropped)
    (text : Text) :
    Text.lastLine (dropped ++ text) = Text.lastLine text := by
  rcases remembers.dropped_eq with rfl | ⟨before, rfl, -⟩
  · rfl
  · rw [List.append_assoc]
    exact Text.lastLine_append_newline before text

theorem Remembers.standsAt {failure : Failure} {before after : Text} {c : Char}
    (remembers : splitter.Remembers dialect taken dropped)
    (source : failure.source = splitter.window.text.toList)
    (sourceLine : failure.sourceLine = splitter.window.firstLine)
    (parts : failure.source = before ++ c :: after)
    (follows : failure.position.Follows (dropped ++ before)) :
    failure.StandsAt taken c := by
  have whole : taken = dropped ++ failure.source := by
    rw [source]
    exact remembers.taken_eq
  have length : (taken.length - failure.source.length : Int) = dropped.length := by
    rw [whole, List.length_append]
    omega
  have offset : failure.position.offset - dropped.length = before.length := by
    rw [follows.offset_eq, List.length_append]
    omega
  have line : failure.position.line - failure.sourceLine = before.count '\n' := by
    rw [follows.line_eq, sourceLine, remembers.firstLine_eq, List.count_append]
    omega
  have wholeLine : failure.position.line - 1 = (dropped ++ before).count '\n' := by
    rw [follows.line_eq]
    omega
  have column : failure.position.column - 1 = (Text.lastLine before).length := by
    rw [follows.column_eq, remembers.lastLine_append]
    omega
  rcases Text.exists_newlineEnded_cons c after with ⟨row, rows, cuts⟩
  constructor
  · exact ⟨dropped, whole.symm⟩
  · omega
  · rw [length, offset, parts]
    simp
  · omega
  · refine ⟨Text.lastLine before ++ c :: row, ?_, ?_, ?_⟩
    · rw [line, parts]
      exact Text.newlineEnded_place cuts before
    · rw [wholeLine, whole, parts, ← List.append_assoc, ← remembers.lastLine_append before]
      exact Text.newlineEnded_place cuts (dropped ++ before)
    · rw [column]
      simp

end Splitter

theorem Transcript.Sound.exists_standsAt {dialect : Dialect} {transcript : Transcript}
    {failure : Failure}
    (sound : transcript.Sound dialect)
    (fails : dialect.words transcript.taken = .error failure) :
    ∃ c, failure.StandsAt transcript.taken c ∧ dialect.Blames c failure.fault := by
  rcases sound.read_remembers with ⟨dropped, remembers⟩
  rcases Dialect.failure_of_words fails with ⟨source, sourceLine, start⟩
  rcases remembers.starts_follow _ start with ⟨before, c, after, parts, follows⟩
  have blamed : dialect.Blames c failure.fault := by
    rcases Dialect.exists_place_of_words fails with
      ⟨front, d, rest, place, first, blames, -⟩
    have same : front ++ d :: rest = dropped ++ before ++ c :: after := by
      rw [← place, remembers.taken_eq, parts, List.append_assoc]
    rcases first.place_unique follows same with ⟨-, rfl, -⟩
    exact blames
  exact ⟨c, remembers.standsAt source sourceLine (source.trans parts) follows, blamed⟩

/--
Whatever has been called on a splitter, its position counts the text it has
taken, its window is what follows the last newline read outside of quotations
and escapes, and all that is open began in the window.  So the failure that a
further call raises stands in its own source at the opener or the leader that it
complains about, on the line that it has in the whole text.
-/
theorem Splitter.session_remembers_open_input (dialect : Dialect)
    (calls : List Splitter.Call) :
    (∃ dropped, (Splitter.fresh.callAll dialect calls).Remembers dialect
      (Transcript.ofCalls dialect calls).taken dropped) ∧
    ∀ request failure,
      ((Splitter.fresh.callAll dialect calls).call dialect request).2 =
        .error (.failed failure) →
      ∃ c, failure.StandsAt (Transcript.ofCalls dialect (calls ++ [request])).taken c ∧
        dialect.Blames c failure.fault := by
  have sound := Transcript.ofCalls_sound dialect calls
  rw [Transcript.callAll_fresh]
  constructor
  · exact sound.splitter_remembers
  · intro request failure failed
    have fails := Transcript.words_of_call_failed sound failed
    rw [Transcript.ofCalls_append_singleton]
    exact (sound.call request).exists_standsAt fails

/-- A quotation that is open at the end began on a line that is kept, after two that are not. -/
theorem Splitter.session_remembers_quotation_on_third_line :
    let calls : List Splitter.Call :=
      [.text "a\nb\nc 'x".toList, .piece [], .text "\ny".toList]
    let failure : Failure :=
      { fault := .unterminatedQuote "'".toList
        position := ⟨3, 3, 6⟩
        source := "c 'x\ny".toList
        sourceLine := 3 }
    ((Splitter.fresh.callAll .shell calls).call .shell .finish).2 =
        .error (.failed failure) ∧
      failure.StandsAt "a\nb\nc 'x\ny".toList '\'' := by
  intro calls failure
  have failed : ((Splitter.fresh.callAll .shell calls).call .shell .finish).2 =
      .error (.failed failure) := by decide
  have taken : (Transcript.ofCalls .shell (calls ++ [.finish])).taken =
      "a\nb\nc 'x\ny".toList := by decide
  refine ⟨failed, ?_⟩
  rcases (Splitter.session_remembers_open_input .shell calls).2 .finish failure failed with
    ⟨c, stands, blames⟩
  rw [taken] at stands
  have opener : "'".toList = [c] := blames.1
  cases opener
  exact stands

end QuotedWords
