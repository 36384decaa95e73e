import RustyFleet.Provider.Identifiers
import RustyFleet.Support.Words

namespace RustyFleet

namespace ProviderCatalog

open Words

section Normalization

theorem replaceDouble_words (text : List Char) (front : List Char) :
    words (· == '-') (front ++ replaceDouble text) = words (· == '-') (front ++ text) := by
  fun_induction replaceDouble text generalizing front with
  | case1 rest ih =>
    have later := ih []
    rw [List.nil_append, List.nil_append] at later
    rw [words_split (by decide), words_split (by decide), words_cons (by decide), later]
  | case2 c rest _ ih =>
    have moved := ih (front ++ [c])
    rwa [List.append_assoc, List.append_assoc, List.singleton_append, List.singleton_append] at moved
  | case3 => rfl

theorem replaceDouble_head (text : List Char) : (replaceDouble text).head? = text.head? := by
  fun_cases replaceDouble text <;> rfl

theorem replaceDouble_last (text : List Char) : (replaceDouble text).getLast? = text.getLast? := by
  fun_induction replaceDouble text with
  | case1 rest ih => simp [List.getLast?_cons, ih]
  | case2 c rest _ ih => simp [List.getLast?_cons, ih]
  | case3 => rfl

theorem collapseDashes_rounds (text : List Char) : ∃ rounds ≤ text.length,
    collapseDashes text = replaceDouble^[rounds] text ∧
      containsDouble (replaceDouble^[rounds] text) = false := by
  fun_induction collapseDashes text with
  | case1 text double ih =>
    obtain ⟨rounds, bounded, same, single⟩ := ih
    have shorter := replaceDouble_length_lt double
    refine ⟨rounds + 1, by omega, ?_, ?_⟩
    · rw [same, Function.iterate_succ_apply]
    · rwa [Function.iterate_succ_apply]
  | case2 text single => exact ⟨0, Nat.zero_le _, rfl, Bool.eq_false_iff.mpr single⟩

theorem collapseDashes_facts (text : List Char) :
    words (· == '-') (collapseDashes text) = words (· == '-') text ∧
      (collapseDashes text).head? = text.head? ∧ (collapseDashes text).getLast? = text.getLast? ∧
      ¬ ['-', '-'] <:+: collapseDashes text := by
  fun_induction collapseDashes text with
  | case1 text double ih =>
    obtain ⟨same, first, last, single⟩ := ih
    have replaced := replaceDouble_words text []
    rw [List.nil_append, List.nil_append] at replaced
    exact ⟨same.trans replaced, first.trans (replaceDouble_head text), last.trans (replaceDouble_last text), single⟩
  | case2 text single =>
    refine ⟨rfl, rfl, rfl, ?_⟩
    unfold containsDouble at single
    simpa using single

end Normalization

section Tokens

def separatesTokens (c : Char) : Bool := c == '.' || c == '_' || c == '-'

/-- The tokens of an identifier: the runs between separators, in lower case. -/
def discoveryTokens (value : String) : List (List Char) :=
  words separatesTokens (toAsciiLowercase value).toList

theorem normalized_tokens (value : String) :
    words (· == '-') (normalized value) = discoveryTokens value := by
  have dashes : ∀ c, (dashed c == '-') = separatesTokens c := by
    intro c
    unfold dashed separatesTokens
    by_cases dot : (c == '.' || c == '_') = true
    · rw [if_pos dot, dot]
      rfl
    · rw [if_neg dot, Bool.eq_false_iff.mpr dot, Bool.false_or]
  have kept : ∀ word ∈ discoveryTokens value, word.map dashed = word := by
    intro word member
    have unseparated := (mem_words member).2
    have same : ∀ c ∈ word, dashed c = id c := by
      intro c inside
      have other := unseparated c inside
      unfold separatesTokens at other
      rw [Bool.or_eq_false_iff] at other
      unfold dashed
      rw [if_neg (Bool.eq_false_iff.mp other.1)]
      rfl
    exact (List.map_congr_left same).trans (List.map_id word)
  rw [normalized, (collapseDashes_facts _).1, words_map dashed (· == '-') dashes]
  exact List.map_congr_left kept |>.trans (List.map_id _)

theorem dashed_lower_ne {c : Char} (alphanumeric : asciiAlphanumeric c = true) :
    dashed (asciiLower c) ≠ '-' := by
  have ascii : c.toNat < 128 := by
    unfold asciiAlphanumeric asciiDigit asciiLowercase asciiUppercase at alphanumeric
    simp only [Bool.or_eq_true, Bool.and_eq_true, decide_eq_true_eq, Char.le_def, UInt32.le_iff_toNat_le]
      at alphanumeric
    have nine : ('9' : Char).val.toNat = 57 := rfl
    have smallZ : ('z' : Char).val.toNat = 122 := rfl
    have largeZ : ('Z' : Char).val.toNat = 90 := rfl
    have same : c.toNat = c.val.toNat := rfl
    omega
  have every : ∀ number < 128, asciiAlphanumeric (Char.ofNat number) = true →
      dashed (asciiLower (Char.ofNat number)) ≠ '-' := by decide
  have here := every c.toNat ascii
  rw [Char.ofNat_toNat] at here
  exact here alphanumeric

theorem normalized_pieces {value : String} (portable : portableIdentifier value 3 192 true = true) :
    (normalized value).splitOn '-' = discoveryTokens value := by
  have parts := portable
  unfold portableIdentifier at parts
  simp only [Bool.and_eq_true] at parts
  obtain ⟨⟨⟨-, first⟩, last⟩, -⟩ := parts
  obtain ⟨-, head, final, alone⟩ :=
    collapseDashes_facts ((toAsciiLowercase value).toList.map dashed)
  have written : (toAsciiLowercase value).toList.map dashed = value.toList.map (dashed ∘ asciiLower) := by
    rw [toAsciiLowercase, String.toList_ofList, List.map_map]
  rw [written] at head final alone
  rw [List.head?_map] at head
  rw [List.getLast?_map] at final
  rw [Option.any_eq_true] at first last
  obtain ⟨firstChar, firstIs, firstAlphanumeric⟩ := first
  obtain ⟨lastChar, lastIs, lastAlphanumeric⟩ := last
  rw [firstIs, Option.map_some] at head
  rw [lastIs, Option.map_some] at final
  rw [← normalized_tokens, words_eq_splitOn]
  rw [normalized, written]
  apply pieces_nonempty ?_ ?_ ?_ alone
  · intro empty
    rw [empty] at head
    cases head
  · rw [head]
    exact fun dash => dashed_lower_ne firstAlphanumeric (Option.some.inj dash)
  · rw [final]
    exact fun dash => dashed_lower_ne lastAlphanumeric (Option.some.inj dash)

theorem boundedSequence_iff (value sequence : List Char) :
    boundedSequence value sequence = true ↔ sequence.splitOn '-' <:+: value.splitOn '-' := by
  rw [← delimited_infix_iff, delimited_cases]
  unfold boundedSequence delimited
  simp only [Bool.or_eq_true, beq_iff_eq, List.isPrefixOf_iff_prefix, List.isSuffixOf_iff_suffix,
    decide_eq_true_eq, or_assoc]

end Tokens

section Exemption

def adbToken : List Char := "adb".toList

def Exempts (previous : List Char) : Prop := previous = "wifi".toList ∨ previous = "wireless".toList

instance (previous : List Char) : Decidable (Exempts previous) := inferInstanceAs (Decidable (_ ∨ _))

def exemptPairs : List (List Char) → Nat
  | previous :: token :: rest =>
    (if Exempts previous ∧ token = adbToken then 1 else 0) + exemptPairs (token :: rest)
  | _ => 0

theorem exemptPairs_le (previous : List Char) (tokens : List (List Char)) :
    exemptPairs (previous :: tokens) ≤ tokens.count adbToken := by
  induction tokens generalizing previous with
  | nil => exact Nat.zero_le _
  | cons token rest ih =>
    have later := ih token
    rw [exemptPairs, List.count_cons]
    by_cases adb : token = adbToken
    · rw [adb] at later ⊢
      simp only [beq_self_eq_true, if_true]
      split <;> omega
    · rw [if_neg (fun pair => adb pair.2)]
      omega

theorem exemptPairs_eq_iff (previous : List Char) (tokens : List (List Char)) :
    exemptPairs (previous :: tokens) = tokens.count adbToken ↔ ∀ front back,
      tokens = front ++ adbToken :: back → Exempts ((previous :: front).getLast (List.cons_ne_nil _ _)) := by
  induction tokens generalizing previous with
  | nil =>
    refine iff_of_true rfl ?_
    intro front back split
    exact absurd split (by simp)
  | cons token rest ih =>
    have bounded := exemptPairs_le token rest
    have later := ih token
    have step : exemptPairs (previous :: token :: rest) = (token :: rest).count adbToken ↔
        (token = adbToken → Exempts previous) ∧ exemptPairs (token :: rest) = rest.count adbToken := by
      rw [exemptPairs, List.count_cons]
      by_cases adb : token = adbToken
      · rw [if_pos (beq_iff_eq.mpr adb)]
        by_cases exempt : Exempts previous
        · rw [if_pos ⟨exempt, adb⟩, and_iff_right fun _ => exempt]
          omega
        · rw [if_neg fun pair => exempt pair.1]
          refine iff_of_false (by omega) ?_
          exact fun both => exempt (both.1 adb)
      · rw [if_neg fun pair => adb pair.2, if_neg (by simpa using adb),
          and_iff_right fun same => absurd same adb]
        omega
    rw [step, later]
    constructor
    · rintro ⟨here, behind⟩ front back split
      cases front with
      | nil => exact here (List.cons.inj split).1
      | cons first front =>
        obtain ⟨rfl, rests⟩ := List.cons.inj split
        rw [List.getLast_cons (List.cons_ne_nil _ _)]
        exact behind front back rests
    · intro every
      refine ⟨fun adb => every [] rest (by rw [adb]; rfl), ?_⟩
      intro front back split
      have whole := every (token :: front) back (by rw [split]; rfl)
      rwa [List.getLast_cons (List.cons_ne_nil _ _)] at whole

theorem exemptPairs_pos_iff (tokens : List (List Char)) :
    0 < exemptPairs tokens ↔
      ["wifi".toList, adbToken] <:+: tokens ∨ ["wireless".toList, adbToken] <:+: tokens := by
  fun_induction exemptPairs tokens with
  | case1 previous token rest ih =>
    have step : ∀ first, [first, adbToken] <:+: previous :: token :: rest ↔
        (first = previous ∧ adbToken = token) ∨ [first, adbToken] <:+: token :: rest := by
      intro first
      rw [List.infix_cons_iff, List.cons_prefix_cons, List.cons_prefix_cons,
        and_iff_left (List.nil_prefix (l := rest))]
    rw [step, step]
    by_cases pair : Exempts previous ∧ token = adbToken
    · rw [if_pos pair]
      refine iff_of_true (by omega) ?_
      rcases pair with ⟨wifi | wireless, adb⟩
      · exact .inl (.inl ⟨wifi.symm, adb.symm⟩)
      · exact .inr (.inl ⟨wireless.symm, adb.symm⟩)
    · rw [if_neg pair, Nat.zero_add, ih]
      constructor
      · rintro (wifi | wireless)
        · exact .inl (.inr wifi)
        · exact .inr (.inr wireless)
      · rintro ((⟨wifi, adb⟩ | wifi) | (⟨wireless, adb⟩ | wireless))
        · exact absurd ⟨.inl wifi.symm, adb.symm⟩ pair
        · exact .inl wifi
        · exact absurd ⟨.inr wireless.symm, adb.symm⟩ pair
        · exact .inr wireless
  | case2 tokens short =>
    refine iff_of_false (Nat.lt_irrefl 0) ?_
    have long : ∀ first second, ¬ [first, second] <:+: tokens := by
      intro first second inside
      have length := inside.length_le
      match tokens, length with
      | previous :: token :: rest, _ => exact short previous token rest rfl
    exact fun either => either.elim (long _ _) (long _ _)

end Exemption

section Filter

def blockedPairs : List (String × String) :=
  [("raw", "shell"), ("raw", "adb"), ("generic", "adb"), ("adb", "args"), ("adb", "command"), ("run", "adb"),
    ("execute", "command"), ("mcp", "execute"), ("arbitrary", "command"), ("raw", "args")]

/-- The tokens name no command surface, and `adb` only behind `wifi` or `wireless`. -/
structure NoCommandSurface (tokens : List (List Char)) : Prop where
  unblocked : ∀ blocked ∈ blockedTokens, blocked.toList ∉ tokens
  unpaired : ∀ pair ∈ blockedPairs, ¬ [pair.1.toList, pair.2.toList] <:+: tokens
  preceded : ∀ front back, tokens = front ++ adbToken :: back → ∃ previous, front.getLast? = some previous ∧
    Exempts previous

theorem blockedSequences_split :
    blockedSequences.map (fun sequence => sequence.toList.splitOn '-') =
      blockedPairs.map fun pair => [pair.1.toList, pair.2.toList] := by
  decide

theorem adb_preceded_iff (tokens : List (List Char)) :
    exemptPairs tokens = tokens.count adbToken ↔ ∀ front back, tokens = front ++ adbToken :: back →
      ∃ previous, front.getLast? = some previous ∧ Exempts previous := by
  have unexempt : ¬ Exempts [] := by decide
  have whole : exemptPairs ([] :: tokens) = exemptPairs tokens := by
    cases tokens with
    | nil => rfl
    | cons token rest => rw [exemptPairs, if_neg fun pair => unexempt pair.1, Nat.zero_add]
  rw [← whole, exemptPairs_eq_iff]
  have last : ∀ front : List (List Char), Exempts (([] :: front).getLast (List.cons_ne_nil _ _)) ↔
      ∃ previous, front.getLast? = some previous ∧ Exempts previous := by
    intro front
    cases front with
    | nil => simp [unexempt]
    | cons first front => simp [List.getLast?_eq_some_getLast]
  simp only [last]

section Portable

variable {value : String} (portable : portableIdentifier value 3 192 true = true)
include portable

theorem boundedSequence_tokens (sequence : List Char) :
    boundedSequence (normalized value) sequence = true ↔ sequence.splitOn '-' <:+: discoveryTokens value := by
  rw [boundedSequence_iff, normalized_pieces portable]

theorem blockedSequence_iff :
    (blockedSequences.any fun blocked => boundedSequence (normalized value) blocked.toList) = true ↔
      ∃ pair ∈ blockedPairs, [pair.1.toList, pair.2.toList] <:+: discoveryTokens value := by
  rw [List.any_eq_true]
  simp only [boundedSequence_tokens portable]
  have mapped : (∃ sequence ∈ blockedSequences, sequence.toList.splitOn '-' <:+: discoveryTokens value) ↔
      ∃ words ∈ blockedSequences.map (fun sequence => sequence.toList.splitOn '-'),
        words <:+: discoveryTokens value := by simp only [List.mem_map, exists_exists_and_eq_and]
  rw [mapped, blockedSequences_split]
  simp only [List.mem_map, exists_exists_and_eq_and]

theorem adb_alone (whole : normalized value = adbToken) : adbToken ∈ discoveryTokens value ∧
    exemptPairs (discoveryTokens value) = 0 := by
  rw [← normalized_pieces portable, whole]
  decide

theorem rejected_iff :
    (blockedTokens.any (fun blocked => (discoveryTokens value).contains blocked.toList) ||
      normalized value == "adb".toList ||
      blockedSequences.any fun blocked => boundedSequence (normalized value) blocked.toList) = true ↔
        (∃ blocked ∈ blockedTokens, blocked.toList ∈ discoveryTokens value) ∨ normalized value = adbToken ∨
          ∃ pair ∈ blockedPairs, [pair.1.toList, pair.2.toList] <:+: discoveryTokens value := by
  rw [Bool.or_eq_true, Bool.or_eq_true, blockedSequence_iff portable, List.any_eq_true, beq_iff_eq, or_assoc]
  simp only [List.contains_iff_mem]
  rfl

theorem exempted_iff :
    (!(discoveryTokens value).contains "adb".toList ||
      boundedSequence (normalized value) "wifi-adb".toList ||
      boundedSequence (normalized value) "wireless-adb".toList) = true ↔
        adbToken ∉ discoveryTokens value ∨ 0 < exemptPairs (discoveryTokens value) := by
  have wifi : "wifi-adb".toList.splitOn '-' = ["wifi".toList, adbToken] := by decide
  have wireless : "wireless-adb".toList.splitOn '-' = ["wireless".toList, adbToken] := by decide
  rw [Bool.or_eq_true, Bool.or_eq_true, boundedSequence_tokens portable, boundedSequence_tokens portable, wifi,
    wireless, exemptPairs_pos_iff, or_assoc, Bool.not_eq_true', ← Bool.not_eq_true, List.contains_iff_mem]
  rfl

end Portable

theorem safeDiscoveryIdentifier_iff (value : String) :
    safeDiscoveryIdentifier value = true ↔ portableIdentifier value 3 192 true = true ∧
      (∀ blocked ∈ blockedTokens, blocked.toList ∉ discoveryTokens value) ∧
      (∀ pair ∈ blockedPairs, ¬ [pair.1.toList, pair.2.toList] <:+: discoveryTokens value) ∧
      (adbToken ∉ discoveryTokens value ∨ 0 < exemptPairs (discoveryTokens value)) := by
  unfold safeDiscoveryIdentifier
  by_cases portable : portableIdentifier value 3 192 true = true
  · have tokens : ((normalized value).splitOn '-').filter (!·.isEmpty) = discoveryTokens value :=
      normalized_tokens value
    dsimp only
    rw [portable, Bool.not_true, if_neg Bool.false_ne_true, and_iff_right rfl, tokens]
    by_cases rejected : (blockedTokens.any (fun blocked => (discoveryTokens value).contains blocked.toList) ||
        normalized value == "adb".toList ||
        blockedSequences.any fun blocked => boundedSequence (normalized value) blocked.toList) = true
    · rw [if_pos rejected]
      apply iff_of_false Bool.false_ne_true
      rintro ⟨unblocked, unpaired, exempt⟩
      rcases (rejected_iff portable).mp rejected with ⟨blocked, listed, member⟩ | whole | ⟨pair, listed, inside⟩
      · exact unblocked blocked listed member
      · obtain ⟨member, none⟩ := adb_alone portable whole
        rcases exempt with absent | some
        · exact absent member
        · omega
      · exact unpaired pair listed inside
    · have kept := mt (rejected_iff portable).mpr rejected
      rw [if_neg rejected, exempted_iff portable]
      constructor
      · intro exempt
        refine ⟨?_, ?_, exempt⟩
        · exact fun blocked listed member => kept (.inl ⟨blocked, listed, member⟩)
        · exact fun pair listed inside => kept (.inr (.inr ⟨pair, listed, inside⟩))
      · exact fun all => all.2.2
  · simp [portable]

/-- The identifiers that are turned away on another ground, or whose `adb` tokens stand in exempt places only, or
in which no place is exempt. -/
def FilterHolds (value : String) : Prop :=
  portableIdentifier value 3 192 true = false ∨ (∃ blocked ∈ blockedTokens, blocked.toList ∈ discoveryTokens value) ∨
    (∃ pair ∈ blockedPairs, [pair.1.toList, pair.2.toList] <:+: discoveryTokens value) ∨
    exemptPairs (discoveryTokens value) = 0 ∨
    exemptPairs (discoveryTokens value) = (discoveryTokens value).count adbToken

/-- The normalisation of every identifier ends; what the filter accepts names no command surface, unless an exempt
place hides an `adb` elsewhere. -/
theorem discovery_filter_iff (value : String) :
    (∃ rounds, collapseDashes ((toAsciiLowercase value).toList.map dashed) =
        replaceDouble^[rounds] ((toAsciiLowercase value).toList.map dashed) ∧
      containsDouble (replaceDouble^[rounds] ((toAsciiLowercase value).toList.map dashed)) = false) ∧
    ((safeDiscoveryIdentifier value = true → NoCommandSurface (discoveryTokens value)) ↔ FilterHolds value) := by
  constructor
  · obtain ⟨rounds, -, same, single⟩ := collapseDashes_rounds ((toAsciiLowercase value).toList.map dashed)
    exact ⟨rounds, same, single⟩
  · rw [safeDiscoveryIdentifier_iff]
    unfold FilterHolds
    constructor
    · intro surface
      by_cases portable : portableIdentifier value 3 192 true = true
      · by_cases blocked : ∃ blocked ∈ blockedTokens, blocked.toList ∈ discoveryTokens value
        · exact .inr (.inl blocked)
        · by_cases paired : ∃ pair ∈ blockedPairs, [pair.1.toList, pair.2.toList] <:+: discoveryTokens value
          · exact .inr (.inr (.inl paired))
          · by_cases none : exemptPairs (discoveryTokens value) = 0
            · exact .inr (.inr (.inr (.inl none)))
            · have clean := surface ⟨portable, fun token listed member => blocked ⟨token, listed, member⟩,
                fun pair listed inside => paired ⟨pair, listed, inside⟩, .inr (Nat.pos_of_ne_zero none)⟩
              exact .inr (.inr (.inr (.inr ((adb_preceded_iff _).mpr clean.preceded))))
      · exact .inl (Bool.eq_false_iff.mpr portable)
    · rintro holds ⟨portable, unblocked, unpaired, exempt⟩
      have counted : exemptPairs (discoveryTokens value) = (discoveryTokens value).count adbToken := by
        rcases holds with unportable | ⟨token, listed, member⟩ | ⟨pair, listed, inside⟩ | none | all
        · rw [portable] at unportable
          cases unportable
        · exact absurd member (unblocked token listed)
        · exact absurd inside (unpaired pair listed)
        · rcases exempt with absent | some
          · rw [none, List.count_eq_zero_of_not_mem absent]
          · omega
        · exact all
      exact ⟨unblocked, unpaired, (adb_preceded_iff _).mp counted⟩

/-- One exempt place lets another `adb` pass. -/
theorem second_adb_accepted : safeDiscoveryIdentifier "wifi-adb.adb" = true ∧
    ¬ NoCommandSurface (discoveryTokens "wifi-adb.adb") := by
  have tokens : discoveryTokens "wifi-adb.adb" = ["wifi".toList, adbToken, adbToken] := by decide
  refine ⟨by decide +kernel, fun clean => ?_⟩
  rw [tokens] at clean
  obtain ⟨previous, last, exempt⟩ := clean.preceded ["wifi".toList, adbToken] [] rfl
  cases last
  revert exempt
  decide

end Filter

end ProviderCatalog

end RustyFleet
