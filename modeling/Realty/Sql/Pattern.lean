/-
# LIKE patterns

`escape e term` writes a term so that a pattern matches it literally: the escape text is doubled,
and stands before every percent sign and underscore.  `containing` is the pattern of the texts
that hold the term somewhere.
-/
import Realty.Text.Replace

namespace Realty.Sql.Pattern

/-- A term as a pattern that matches it literally: `escape_like`. -/
def escape (e term : List Char) : List Char :=
  Text.replaceAll ['_'] (e ++ ['_'])
    (Text.replaceAll ['%'] (e ++ ['%']) (Text.replaceAll e (e ++ e) term))

/-- The escape character of the rendered statements. -/
def escapeChar : Char := '\\'

/-- The pattern of the texts that hold a term. -/
def containing (term : List Char) : List Char := '%' :: escape [escapeChar] term ++ ['%']

end Realty.Sql.Pattern
