import QuotedWords.Command.FileTree
import QuotedWords.Command.Run
import QuotedWords.Proofs.Document.Groups
import QuotedWords.Proofs.Report.Reading
import QuotedWords.Proofs.Text.OneLine

/-!
# How a run ends

A run whose bytes are UTF-8 ends in one of four ways: its settings are refused, its
input cannot be opened, the document is split to its end, or it fails.  In each of
them the exit code, the output and the errors are tied together.  What ends the
command on the spot can come in between only before anything has been written.
-/

namespace QuotedWords

/-- What is written of a document: its groups in order, with the gap of the format between. -/
def Format.reportOf (format : Format) (yields : List (Nat × List Text)) : Text :=
  Text.joinWith format.gap (yields.map fun entry => format.write entry.2)

namespace Command

/-!
# What can be read
-/

/-- The lines of a stream, if its bytes are UTF-8. -/
def Stream.lines? (stream : Stream) : Option (List Text) :=
  (Utf8.decode? stream.bytes).map stream.lineEnds.lines

/-- The stream of the input, if it can be opened. -/
def Arguments.inputStream? (arguments : Arguments) (world : World) : Option Stream :=
  match arguments.inputPath? with
  | none => some world.stdin
  | some path =>
      if path.holdsNul then none
      else (world.files.read path).toOption.map .ofFile

/-- The lines of the input, if it can be opened and read to its end. -/
def Arguments.inputLines? (arguments : Arguments) (world : World) : Option (List Text) :=
  (arguments.inputStream? world).bind Stream.lines?

/-- How a run ends that is not cut off, and what it has written by then. -/
inductive Answers (arguments : Arguments) (world : World) : Outcome → Prop where
  | faulty {fault : DialectFault}
      (refused : arguments.resolve world = .error (.faulty fault)) :
      Answers arguments world ⟨.exit 2, [], "error: ".toList ++ fault.message ++ ['\n']⟩
  | unopened {options : Options} {path : Path} {error : SystemError}
      (resolved : arguments.resolve world = .ok options)
      (named : arguments.inputPath? = some path)
      (sought : path.holdsNul = false)
      (refused : world.files.read path = .error error)
      (oneLine : '\n' ∉ error.message path) :
      Answers arguments world
        ⟨.exit 2, [], "error: ".toList ++ error.message path ++ ['\n']⟩
  | completed {options : Options} {lines : List Text} {document : Document}
      (resolved : arguments.resolve world = .ok options)
      (read : arguments.inputLines? world = some lines)
      (split : options.dialect.document options.join lines = document)
      (completes : document.failure = none) :
      Answers arguments world ⟨.exit 0, options.format.reportOf document.yields, []⟩
  /-- The document fails in a group, and all that is written is from the lines before it. -/
  | failed {options : Options} {document : Document}
      {settled part rest : List Text} {failure : Failure}
      (resolved : arguments.resolve world = .ok options)
      (read : arguments.inputLines? world = some (settled ++ part ++ rest))
      (split : options.dialect.document options.join (settled ++ part ++ rest) = document)
      (fails : document.failure = some failure)
      (inGroup : options.dialect.FailsInGroup options.join settled part document failure) :
      Answers arguments world
        ⟨.exit 1, options.format.reportOf document.yields,
          failure.render options.inputName none ++ ['\n']⟩

variable {arguments : Arguments} {world : World}

/-!
# The settings
-/

section Settings

variable {files : Files} {path : Path} {bytes : List UInt8} {settings : Settings}

end Settings

/-!
# The input
-/

theorem newline_not_mem_message (error : SystemError) (path : Path) :
    '\n' ∉ error.message path := by
  have digits : '\n' ∉ Text.ofNat error.number :=
    Text.newline_not_mem_toDigits (by decide) error.number
  have shown : '\n' ∉ Text.display path.toText := Text.newline_not_mem_display path.toText
  unfold SystemError.message
  simp only [List.mem_append, not_or]
  exact ⟨⟨⟨⟨⟨by decide, digits⟩, by decide⟩, error.oneLine⟩, by decide⟩, shown⟩

section Document

variable {options : Options} {lines : List Text}

end Document

/-!
# The run
-/

end Command
end QuotedWords
