import Mathlib.Data.List.Infix
import RustyFleet.Contracts.Text

namespace RustyFleet

namespace ProviderCatalog

def portableIdentifier (value : String) (minimum maximum : Nat) (uppercase : Bool) : Bool :=
  (minimum ≤ value.utf8ByteSize && value.utf8ByteSize ≤ maximum) &&
    value.toList.head?.any asciiAlphanumeric &&
    value.toList.getLast?.any asciiAlphanumeric &&
    value.toList.all fun c =>
      asciiDigit c || asciiLowercase c || (uppercase && asciiUppercase c) || c == '.' || c == '_' || c == '-'

/-- `normalized.contains("--")`. -/
def containsDouble (text : List Char) : Bool := decide (['-', '-'] <:+: text)

/-- `normalized.replace("--", "-")`. -/
def replaceDouble : List Char → List Char
  | '-' :: '-' :: rest => '-' :: replaceDouble rest
  | c :: rest => c :: replaceDouble rest
  | [] => []

theorem replaceDouble_length_le (text : List Char) : (replaceDouble text).length ≤ text.length := by
  fun_induction replaceDouble text with
  | case1 rest ih =>
    simp only [List.length_cons]
    omega
  | case2 c rest _ ih =>
    simp only [List.length_cons]
    omega
  | case3 => exact Nat.le_refl 0

theorem replaceDouble_length_lt {text : List Char} (double : containsDouble text = true) :
    (replaceDouble text).length < text.length := by
  unfold containsDouble at double
  rw [decide_eq_true_eq] at double
  fun_induction replaceDouble text with
  | case1 rest _ =>
    have shorter := replaceDouble_length_le rest
    simp only [List.length_cons]
    omega
  | case2 c rest other ih =>
    rcases List.infix_cons_iff.mp double with leading | later
    · obtain ⟨rfl, ⟨behind, rfl⟩⟩ := List.cons_prefix_cons.mp leading
      exact absurd rfl (other behind rfl)
    · have shorter := ih later
      simp only [List.length_cons]
      omega
  | case3 => exact absurd double (by decide)

/-- The loop that runs while the text has a double dash. -/
def collapseDashes (text : List Char) : List Char :=
  if containsDouble text then collapseDashes (replaceDouble text) else text
termination_by text.length
decreasing_by
  apply replaceDouble_length_lt
  assumption

/-- `replace(['.', '_'], "-")`. -/
def dashed (c : Char) : Char := if c == '.' || c == '_' then '-' else c

def normalized (value : String) : List Char := collapseDashes ((toAsciiLowercase value).toList.map dashed)

def boundedSequence (value sequence : List Char) : Bool :=
  value == sequence || (sequence ++ ['-']).isPrefixOf value || ('-' :: sequence).isSuffixOf value ||
    decide ('-' :: (sequence ++ ['-']) <:+: value)

def blockedTokens : List String := ["shell", "exec", "execute", "mcp", "command"]

def blockedSequences : List String :=
  ["raw-shell", "raw-adb", "generic-adb", "adb-args", "adb-command", "run-adb", "execute-command", "mcp-execute",
    "arbitrary-command", "raw-args"]

def safeDiscoveryIdentifier (value : String) : Bool :=
  if !portableIdentifier value 3 192 true then false
  else
    let tokens := ((normalized value).splitOn '-').filter (!·.isEmpty)
    if blockedTokens.any (fun blocked => tokens.contains blocked.toList) || normalized value == "adb".toList ||
        blockedSequences.any (fun blocked => boundedSequence (normalized value) blocked.toList) then
      false
    else
      !tokens.contains "adb".toList || boundedSequence (normalized value) "wifi-adb".toList ||
        boundedSequence (normalized value) "wireless-adb".toList

def semanticVersion (value : String) : Bool :=
  if value.isEmpty || value.utf8ByteSize > 64 ||
      value.toList.any (fun c => !(asciiLowercase c || asciiDigit c || c == '.' || c == '-')) then
    false
  else
    let core := value.toList.takeWhile (· ≠ '-')
    let suffix := (value.toList.dropWhile (· ≠ '-')).tail?
    (core.splitOn '.').length == 3 &&
      (core.splitOn '.').all (fun part => !part.isEmpty && part.all asciiDigit) &&
      suffix.all fun suffix => !suffix.isEmpty &&
        (suffix.splitOn '.').all fun part =>
          !part.isEmpty && part.head? != some '-' && part.getLast? != some '-'

def isLowerSha256 (value : String) : Bool :=
  value.utf8ByteSize == 64 && value.toList.all fun c => asciiDigit c || ('a' ≤ c && c ≤ 'f')

end ProviderCatalog

end RustyFleet
