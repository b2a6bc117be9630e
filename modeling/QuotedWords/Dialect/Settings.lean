import QuotedWords.Dialect.Parts

/-!
# Dialects from settings

A table of settings starts from a named style and replaces the quotes, the
escapes and the leader of that style by its own, each on its own account.
-/

namespace QuotedWords

abbrev Settings := Table Text Datum

namespace QuoteMode

def named? (name : Text) : Option QuoteMode :=
  if name = "ignore".toList then some .ignoreEscapes
  else if name = "parse".toList then some .parseEscapes
  else none

def name : QuoteMode → Text
  | .ignoreEscapes => "ignore".toList
  | .parseEscapes => "parse".toList

theorem named?_name (mode : QuoteMode) : named? mode.name = some mode := by
  cases mode <;> decide

end QuoteMode

namespace Settings

/-- The value of a setting that counts as absent when it is nothing. -/
def given? (settings : Settings) (key : Text) : Option Datum :=
  (settings.get? key).filter fun value => !value.isNull

/--
The style that is asked for: by what is given aside, else by the settings, else
that of a shell.
-/
def style (settings : Settings) (aside : Option Datum) :
    Except DialectFault Style :=
  let asked :=
    aside.getD ((settings.get? "style".toList).getD (.text Style.shell.name))
  match asked.text?.bind Style.named? with
  | some style => .ok style
  | none => .error (.unknownStyle asked)

/-- One quote of the settings, as a part of a dialect. -/
def quotePart (opener : Text) (rule : Datum) :
    Except DialectFault (Scalar × Datum) :=
  match rule with
  | .table fields =>
      let asked := (fields.lookup "mode".toList).getD (.text QuoteMode.ignoreEscapes.name)
      match asked.text?.bind QuoteMode.named? with
      | some mode =>
          let close := (fields.lookup "close".toList).getD (.text opener)
          .ok (.text opener, .list [close, .mode mode])
      | none => .error (.unknownMode opener asked)
  | _ => .error (.quoteNotTable opener)

/-- The quotes of a dialect as the parts that make it. -/
def partsOfQuotes (quotes : Table Char QuoteRule) : Table Scalar Datum :=
  .ofList <| quotes.entries.map fun entry =>
    (.text [entry.1], .list [.text [entry.2.close], .mode entry.2.mode])

/-- The escapes of a dialect as the parts that make it. -/
def partsOfEscapes (escapes : Table Char Char) : Table Scalar Datum :=
  .ofList <| escapes.entries.map fun entry => (.text [entry.1], .text [entry.2])

/-- The quotes that count: those of the settings, else those of the style. -/
def quotes (settings : Settings) (base : Dialect) :
    Except DialectFault (Table Scalar Datum) :=
  match settings.given? "quotes".toList with
  | none => .ok (partsOfQuotes base.quotes)
  | some (.table entries) => do
      let parts ← entries.mapM fun entry => quotePart entry.1 entry.2
      .ok (.ofList parts)
  | some _ => .error .quotesNotTable

/-- The escapes that count: those of the settings, else those of the style. -/
def escapes (settings : Settings) (base : Dialect) :
    Except DialectFault (Table Scalar Datum) :=
  match settings.given? "escapes".toList with
  | none => .ok (partsOfEscapes base.escapes)
  | some (.table entries) =>
      .ok (.ofList (entries.map fun entry => (.text entry.1, entry.2)))
  | some _ => .error .escapesNotTable

/--
The leader that counts: that of the settings, else that of the style.  An empty
value of any kind turns escaping off.
-/
def leader (settings : Settings) (base : Dialect) : Datum :=
  match settings.get? "escape_leader".toList with
  | some value => if value.isEmpty then .null else value
  | none =>
      match base.leader with
      | some c => .text [c]
      | none => .null

/-- The parts of the dialect that the settings and a style given aside ask for. -/
def parts (settings : Settings) (aside : Option Datum) :
    Except DialectFault DialectParts := do
  let style ← settings.style aside
  let quotes ← settings.quotes style.dialect
  let escapes ← settings.escapes style.dialect
  .ok { quotes, escapes, leader := settings.leader style.dialect }

def toDialect (settings : Settings) (aside : Option Datum) :
    Except DialectFault Dialect := do
  let parts ← settings.parts aside
  parts.toDialect

end Settings

namespace Dialect

end Dialect
end QuotedWords
