import MacroByExample.Rules.Settings
import MacroByExample.Text.Blank
import MacroByExample.Reader.Delimiter
import MacroByExample.Json.Reader
import MacroByExample.Json.Value

/-!
# Configurations

A configuration holds the settings of matching and the number of columns that layouts keep to. It
is valid if its ellipsis marker is a token and its number of columns is not zero.

This is the configuration of the specification (`SPEC_FULL.md` §18). A token is here a text without
any white space of Unicode, which is less than the reader takes for one: a no-break space may stand
in a token, but not in a marker. A file that cannot be read is an invalid configuration in §18; it
is reported like any other such file (see `MacroByExample.CommandLine.Execute`).

Main definitions:
* `Configuration`: the settings; `Configuration.validate` checks them.
* `ConfigurationError`: why a configuration is refused.
-/

namespace MacroByExample

/-- The settings of matching, and the columns that layouts keep to (`ExpanderConfig`). -/
structure Configuration extends MatchSettings where
  width : Nat := 80
deriving DecidableEq, Repr, Inhabited

/-- Why a configuration is refused. -/
inductive ConfigurationError where
  /-- The text of the configuration describes none. -/
  | json (error : Json.Error)
  /-- The ellipsis marker is no token. -/
  | ellipsisNotAtom (ellipsis : String)
  /-- The number of columns is zero. -/
  | noWidth

namespace ConfigurationError

/-- What is wrong with the configuration, in words. -/
def reason : ConfigurationError → String
  | .json error => error.message
  | .ellipsisNotAtom ellipsis => s!"ellipsis marker '{ellipsis}' is not a valid atom"
  | .noWidth => "width must be at least 1"

/-- How to mend the configuration. -/
def help? : ConfigurationError → Option String
  | .json _ => some "keys: ellipsis, trailing (strict|lenient), ignore_keyword, width"
  | .ellipsisNotAtom _ => some "use a token without whitespace or brackets, such as ..."
  | .noWidth => none

end ConfigurationError

namespace Configuration

/-- Whether the text can be an ellipsis marker: it is not empty and holds neither white space nor
    brackets (`bad_char`). -/
def isMarker (ellipsis : String) : Bool :=
  !ellipsis.isEmpty && ellipsis.toList.all fun c => !Text.isBlank c && !Reader.isDelimiter c

/-- Refuses a configuration that is not valid. -/
def validate (c : Configuration) : Except ConfigurationError Unit :=
  if !isMarker c.ellipsis then .error (.ellipsisNotAtom c.ellipsis)
  else if c.width = 0 then .error .noWidth
  else .ok ()

end Configuration

end MacroByExample
