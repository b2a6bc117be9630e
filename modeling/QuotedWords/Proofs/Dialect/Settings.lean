import QuotedWords.Proofs.Dialect.Parts

/-!
# Settings and the styles they change

Settings ask for a style and change its parts, each on its own account: a part that
is not set is that of the style, whatever is set beside it.  All parts together can
say everything that a dialect says.
-/

namespace QuotedWords

/-!
# Parts of a dialect as parts of another
-/

namespace Dialect

variable {dialect : Dialect} {parts : DialectParts}

end Dialect

namespace Settings

variable {settings other : Settings} {aside : Option Datum} {style : Style}
  {parts : DialectParts} {dialect base : Dialect}

/-!
# What each setting says
-/

/-- The settings ask for a style, and in the end for these parts. -/
structure Asks (settings : Settings) (aside : Option Datum) (style : Style)
    (parts : DialectParts) : Prop where
  style_eq : settings.style aside = .ok style
  quotes_eq : settings.quotes style.dialect = .ok parts.quotes
  escapes_eq : settings.escapes style.dialect = .ok parts.escapes
  leader_eq : settings.leader style.dialect = parts.leader

theorem toDialect_eq_ok_iff :
    settings.toDialect aside = .ok dialect ↔
      ∃ style parts, settings.Asks aside style parts ∧ dialect.MadeFrom parts := by
  unfold toDialect Settings.parts
  simp only [bind_eq_ok_iff, DialectParts.toDialect_eq_ok_iff]
  constructor
  · rintro ⟨_, ⟨style, asked, quotes, found, escapes, known, ⟨⟩⟩, made⟩
    exact ⟨style, _, ⟨asked, found, known, rfl⟩, made⟩
  · rintro ⟨style, parts, asks, made⟩
    refine ⟨parts, ⟨style, asks.style_eq, _, asks.quotes_eq, _, asks.escapes_eq, ?_⟩, made⟩
    rw [asks.leader_eq]

/-!
# Settings without a part
-/

end Settings
end QuotedWords
