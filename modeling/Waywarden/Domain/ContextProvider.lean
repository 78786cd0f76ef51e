import Waywarden.Domain.Basic
import Waywarden.Lib.Regex

/-!
# Scrubbing secrets from context text

`scrub_secrets` of `waywarden.domain.context_provider`: three patterns, replaced one after the
other.  They are compiled with `re.I`, so a letter is compared by its `caseKey`.
-/

namespace Waywarden

open Regex

/-- The character that decides a comparison under `re.I`: its small letter.  Beside the ASCII
capitals four characters count as ASCII letters: the Kelvin sign, the long s, and the i with a dot
too many or too few. -/
def caseKey (c : Char) : Char :=
  if c = '\u212a' then 'k'
  else if c = '\u017f' then 's'
  else if c = '\u0130' ∨ c = '\u0131' then 'i'
  else c.toLower

/-- A text, written out, in either case. -/
def letters (text : String) : Regex Char :=
  word (text.toList.map fun letter c => caseKey c == caseKey letter)

/-- `[...]` on a few characters. -/
def oneOf (chars : List Char) : Regex Char := one fun c => chars.contains c

/-- `\s`. -/
def blank (c : Char) : Bool := isSpace c

/-- `\S`. -/
def nonBlank (c : Char) : Bool := !isSpace c

/-- `[A-Za-z0-9_]`. -/
def wordChar (c : Char) : Bool :=
  ('a' ≤ caseKey c && caseKey c ≤ 'z') || ('0' ≤ c && c ≤ '9') || c == '_'

/-- `(?:api[_-]?key|token|secret|password)`. -/
def secretName : Regex Char :=
  alt (seq (letters "api") (seq (alt (oneOf ['_', '-']) empty) (letters "key")))
    (alt (letters "token") (alt (letters "secret") (letters "password")))

/-- `(?:api[_-]?key|token|secret|password)\s*[=:]\s*\S+`. -/
def assignedSecret : Regex Char :=
  seq (seq secretName (seq (many 0 blank) (seq (oneOf ['=', ':']) (many 0 blank))))
    (many 1 nonBlank)

/-- `-----BEGIN\s+(?:RSA|EC|DSA)\s+PRIVATE\s+KEY-----`. -/
def privateKeyHeader : Regex Char :=
  seq (letters "-----BEGIN") (seq (many 1 blank)
    (seq (alt (letters "RSA") (alt (letters "EC") (letters "DSA"))) (seq (many 1 blank)
      (seq (letters "PRIVATE") (seq (many 1 blank) (letters "KEY-----"))))))

/-- `(?:ghp|gho|ghu|ghs|ghr)_[A-Za-z0-9_]{36,}`. -/
def githubToken : Regex Char :=
  seq (alt (letters "ghp") (alt (letters "gho") (alt (letters "ghu") (alt (letters "ghs")
    (letters "ghr"))))) (seq (letters "_") (many 36 wordChar))

/-- `_SECRET_PATTERNS`. -/
def secretPatterns : List (Regex Char) := [assignedSecret, privateKeyHeader, githubToken]

/-- What a secret is replaced by. -/
def redacted : String := "[REDACTED]"

/-- `pattern.sub("[REDACTED]", text)`. -/
def redact (text : String) (pattern : Regex Char) : String :=
  String.ofList (sub pattern redacted.toList text.toList)

/-- `scrub_secrets`. -/
def scrubSecrets (text : String) : String := secretPatterns.foldl redact text

example : scrubSecrets "use API-Key = : x, then secret:" = "use [REDACTED] x, then secret:" := by
  decide +kernel

end Waywarden
