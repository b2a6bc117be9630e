import QuotedWords.Datum.Display
import QuotedWords.Splitter.Basic

/-!
# Display of splitters and their states
-/

namespace QuotedWords

def Context.display : Context → Text
  | .bare => "Normal()".toList
  | .quoted quote =>
      "InQuote(close=".toList ++ Text.display [quote.close] ++
        ", mode=".toList ++ quote.mode.display ++
        ", opener=".toList ++ Text.display [quote.opener] ++
        ", start=".toList ++ quote.start.display ++ ")".toList

def State.display : State → Text
  | .within context => context.display
  | .escaping resume leader =>
      "EscapePending(resume=".toList ++ resume.display ++
        ", start=".toList ++ leader.display ++ ")".toList

def displayWords (words : List Text) : Text :=
  '[' :: (Text.joinWith ", ".toList (words.map Text.display) ++ [']'])

def Splitter.display (splitter : Splitter) : Text :=
  "Tokeniser(words=".toList ++ displayWords splitter.words.toList ++
    ", buffer=".toList ++ Text.display splitter.buffer.toList ++
    ", state=".toList ++ splitter.state.display ++ ")".toList

end QuotedWords
