import Mathlib
import HttpRetry.Proofs.AdviceReading
import HttpRetry.DryRun.Script

/-!
The grammar of scripted outcomes (`DryRun.Entry`): a failure kind's name, a status code, or a
code, a colon and seconds. Numerals are exactly the texts the number reader accepts
(`Text.parseSigned?_eq_some_iff`) and hold no colon (`DryRun.cut_eq_iff`), and the seconds come
back as advice (`retryAdvice_scripted`). Main statement, `scripted_outcome_grammar`.
-/

namespace HttpRetry

namespace Text

/-- The number reader accepts exactly the numerals whose value fits a signed word. -/
theorem parseSigned?_eq_some_iff {v : String} {n : Int} :
    parseSigned? v = some n ↔ IsNumeral v n ∧ minSigned ≤ n ∧ n ≤ maxSigned := by
  constructor
  · intro h
    have hok : parseSigned v = .ok n := by
      unfold parseSigned? at h
      cases hp : parseSigned v <;> simp_all [Except.toOption]
    have hnum := isNumeral_of_parseSigned hok
    rw [parseSigned_of_isNumeral hnum] at hok
    split_ifs at hok with hrange
    exact ⟨hnum, by omega, by omega⟩
  · rintro ⟨hnum, hlo, hhi⟩
    rw [parseSigned?, parseSigned_of_isNumeral hnum, if_neg (by omega)]
    rfl

/-- Every character of a numeral is a digit or a sign. -/
theorem IsNumeral.mem {v : String} {n : Int} (h : IsNumeral v n) {c : Char} (hc : c ∈ v.toList) :
    c.isDigit = true ∨ c = '+' ∨ c = '-' := by
  obtain ⟨ds, -, hd, hsign⟩ := h
  rcases hsign with ⟨hv, -⟩ | ⟨hv, -⟩ | ⟨hv, -⟩ <;> rw [hv] at hc
  · exact .inl (hd c hc)
  · rcases List.mem_cons.1 hc with rfl | hc
    · exact .inr (.inl rfl)
    · exact .inl (hd c hc)
  · rcases List.mem_cons.1 hc with rfl | hc
    · exact .inr (.inr rfl)
    · exact .inl (hd c hc)

/-- A numeral is not empty. -/
theorem IsNumeral.exists_cons {v : String} {n : Int} (h : IsNumeral v n) :
    ∃ c r, v.toList = c :: r := by
  obtain ⟨ds, hne, -, hsign⟩ := h
  obtain ⟨d, ds', rfl⟩ := List.exists_cons_of_ne_nil hne
  rcases hsign with ⟨hv, -⟩ | ⟨hv, -⟩ | ⟨hv, -⟩ <;> exact ⟨_, _, hv⟩

/-- No digit or sign is white space. -/
theorem isSpace_of_digit_or_sign {c : Char} (hc : c.isDigit = true ∨ c = '+' ∨ c = '-') :
    isSpace c = false := by
  rcases hc with hd | rfl | rfl
  · simp only [Char.isDigit, Bool.and_eq_true, decide_eq_true_eq, UInt32.le_iff_toNat_le,
      ge_iff_le] at hd
    have h0 : '0'.val.toNat = 48 := rfl
    have h9 : '9'.val.toNat = 57 := rfl
    have hn : c.toNat = c.val.toNat := rfl
    simp only [isSpace, hn]
    simp only [Bool.or_eq_false_iff, Bool.and_eq_false_iff, decide_eq_false_iff_not, not_le,
      beq_eq_false_iff_ne, ne_eq]
    omega
  · decide
  · decide

/-- Trimming leaves a text with no white space in it as it is. -/
theorem trimSpace_of_forall {s : String} (h : ∀ c ∈ s.toList, isSpace c = false) :
    trimSpace s = s := by
  have hdrop : ∀ l : List Char, (∀ c ∈ l, isSpace c = false) → l.dropWhile isSpace = l := by
    intro l hl
    cases l with
    | nil => rfl
    | cons c r => exact List.dropWhile_cons_of_neg (by simp [hl c List.mem_cons_self])
  unfold trimSpace
  rw [hdrop _ h, hdrop _ (by simpa using h), List.reverse_reverse, String.ofList_toList]

end Text

namespace DryRun

/-- Digits and signs have no case. -/
theorem lowerLetter_of_digit_or_sign {c : Char} (hc : c.isDigit = true ∨ c = '+' ∨ c = '-') :
    lowerLetter c = c := by
  rcases hc with hd | rfl | rfl
  · have hupper : c.isUpper = false := by
      have halpha := Text.not_alpha_of_digit hd
      simp only [Char.isAlpha, Bool.or_eq_false_iff] at halpha
      exact halpha.1
    have hI : c ≠ 'İ' := by rintro rfl; simp at hd
    have hK : c ≠ 'K' := by rintro rfl; simp at hd
    have hlower : c.toLower = c := Text.toLower_of_not_upper hupper
    simp [lowerLetter, hI, hK, hlower]
  · decide
  · decide

/-- A text that begins with a digit or a sign names no failure kind: every kind's name begins
with a letter. -/
theorem kindNamed_of_head {t : String} {c : Char} {r : List Char} (ht : t.toList = c :: r)
    (hc : c.isDigit = true ∨ c = '+' ∨ c = '-') : kindNamed t = none := by
  have hhead : (lowerCase t).toList.head? = some c := by
    simp [lowerCase, ht, lowerLetter_of_digit_or_sign hc]
  unfold kindNamed
  rw [List.find?_eq_none]
  intro e he heq
  have hname : e.1 = lowerCase t := by simpa using heq
  rw [← hname] at hhead
  simp only [kindNames, List.mem_cons, List.not_mem_nil, or_false] at he
  rcases he with rfl | rfl | rfl | rfl <;>
  · simp at hhead
    subst hhead
    revert hc
    decide

/-- The kind a text names and the name it goes by: a kind of the table whose name is the text in
lower case. -/
theorem kindNamed_eq_some_iff {t name : String} {k : FailureKind} :
    kindNamed t = some (name, k) ↔ (name, k) ∈ kindNames ∧ lowerCase t = name := by
  constructor
  · intro h
    have hname : name = lowerCase t := by simpa using List.find?_some h
    exact ⟨List.mem_of_find?_eq_some h, hname.symm⟩
  · rintro ⟨hmem, rfl⟩
    simp only [kindNames, List.mem_cons, List.not_mem_nil, or_false, Prod.mk.injEq] at hmem
    unfold kindNamed
    rcases hmem with ⟨hname, rfl⟩ | ⟨hname, rfl⟩ | ⟨hname, rfl⟩ | ⟨hname, rfl⟩ <;>
    · rw [hname]
      decide

/-- Cutting at a colon: a text with no colon stays whole, and any other text is cut at its first
colon. -/
theorem cut_eq_iff {s code : String} {advice : Option String} :
    cut ':' s = (code, advice) ↔
      ':' ∉ code.toList ∧ (advice = none ∧ s = code ∨ ∃ a, advice = some a ∧ s = code ++ ":" ++ a) := by
  have hsplit := List.takeWhile_append_dropWhile (p := (· != ':')) (l := s.toList)
  have hbefore : ':' ∉ s.toList.takeWhile (· != ':') := fun h => by
    simpa using List.mem_takeWhile_imp h
  unfold cut
  rw [List.span_eq_takeWhile_dropWhile]
  constructor
  · intro h
    -- what is left after the longest prefix without a colon: nothing, or the first colon
    rcases hrest : s.toList.dropWhile (· != ':') with _ | ⟨x, after⟩
    · rw [hrest] at h hsplit
      simp only [Prod.mk.injEq] at h
      obtain ⟨rfl, rfl⟩ := h
      refine ⟨by simpa using hbefore, .inl ⟨rfl, ?_⟩⟩
      rw [List.append_nil] at hsplit
      rw [← String.toList_inj, String.toList_ofList, hsplit]
    · rw [hrest] at h hsplit
      simp only [Prod.mk.injEq] at h
      obtain ⟨rfl, rfl⟩ := h
      have hx : x = ':' := by
        have hnot := List.head_dropWhile_not (· != ':') (l := s.toList) (by simp [hrest])
        simp only [hrest, List.head_cons, bne_eq_false_iff_eq] at hnot
        exact hnot
      subst hx
      refine ⟨by simpa using hbefore, .inr ⟨_, rfl, ?_⟩⟩
      rw [← String.toList_inj, String.toList_append, String.toList_append, String.toList_ofList,
        String.toList_ofList]
      simpa using hsplit.symm
  · rintro ⟨hcolon, ⟨rfl, rfl⟩ | ⟨a, rfl, rfl⟩⟩
    · have hall : ∀ x ∈ s.toList, (x != ':') = true := fun x hx => by
        simpa using fun h : x = ':' => hcolon (h ▸ hx)
      rw [List.takeWhile_eq_self_iff.2 hall, List.dropWhile_eq_nil_iff.2 hall]
      simp
    · have hall : ∀ x ∈ code.toList, (x != ':') = true := fun x hx => by
        simpa using fun h : x = ':' => hcolon (h ▸ hx)
      have hlist : (code ++ ":" ++ a).toList = code.toList ++ ':' :: a.toList := by simp
      rw [hlist, List.takeWhile_append_of_pos hall, List.dropWhile_append_of_pos hall]
      simp [String.ofList_toList]

/-- A numeral holds no colon. -/
theorem colon_not_mem_numeral {v : String} {n : Int} (h : Text.IsNumeral v n) : ':' ∉ v.toList :=
  fun hc => by simpa using h.mem hc

/-- A text that begins with a numeral names no failure kind. -/
theorem kindNamed_of_numeral_head {t c : String} {n : Int} {l : List Char} (hn : Text.IsNumeral c n)
    (ht : t.toList = c.toList ++ l) : kindNamed t = none := by
  obtain ⟨x, xs, hc⟩ := hn.exists_cons
  rw [hc, List.cons_append] at ht
  exact kindNamed_of_head ht (hn.mem (hc ▸ List.mem_cons_self))

/-- The grammar of a script entry trimmed of white space, with the outcome each form stands for. -/
inductive Entry : String → Outcome → Prop
  /-- A failure kind's name in any case: a failure of that kind, whose message names it. -/
  | kind {t name : String} {k : FailureKind} (hk : (name, k) ∈ kindNames)
      (hname : lowerCase t = name) :
      Entry t (.failed k (.text ("simulated " ++ name ++ " failure")))
  /-- A status code: a response with that status and no header map. -/
  | status {t : String} {n : Int} (hn : Text.IsNumeral t n) (hlo : 100 ≤ n) (hhi : n ≤ 599) :
      Entry t (.response n none none)
  /-- A status code, a colon and a number of seconds that fits a signed word and is not negative:
  a response whose header map holds the seconds, as written, as its one `Retry-After` value. -/
  | advised {c r : String} {n m : Int} (hn : Text.IsNumeral c n) (hlo : 100 ≤ n) (hhi : n ≤ 599)
      (hm : Text.IsNumeral r m) (hpos : 0 ≤ m) (hfit : m ≤ Text.maxSigned) :
      Entry (c ++ ":" ++ r) (.response n (some ⟨[("Retry-After", [r])]⟩) none)

/-- The texts the grammar takes, form by form. -/
theorem exists_entry_iff {t : String} :
    (∃ o, Entry t o) ↔
      (∃ name k, (name, k) ∈ kindNames ∧ lowerCase t = name) ∨
      (∃ n, Text.IsNumeral t n ∧ 100 ≤ n ∧ n ≤ 599) ∨
      (∃ c r n m, t = c ++ ":" ++ r ∧ Text.IsNumeral c n ∧ 100 ≤ n ∧ n ≤ 599 ∧
        Text.IsNumeral r m ∧ 0 ≤ m ∧ m ≤ Text.maxSigned) := by
  constructor
  · rintro ⟨o, h⟩
    cases h with
    | kind hk hname => exact .inl ⟨_, _, hk, hname⟩
    | status hn hlo hhi => exact .inr (.inl ⟨_, hn, hlo, hhi⟩)
    | advised hn hlo hhi hm hpos hfit =>
      exact .inr (.inr ⟨_, _, _, _, rfl, hn, hlo, hhi, hm, hpos, hfit⟩)
  · rintro (⟨name, k, hk, hname⟩ | ⟨n, hn, hlo, hhi⟩ | ⟨c, r, n, m, rfl, hn, hlo, hhi, hm, hpos, hfit⟩)
    · exact ⟨_, .kind hk hname⟩
    · exact ⟨_, .status hn hlo hhi⟩
    · exact ⟨_, .advised hn hlo hhi hm hpos hfit⟩

/-- What the reader accepts is an entry of the grammar, and the outcome is the one the grammar
gives. -/
theorem entry_of_parseOutcome {s : String} {o : Outcome} (h : parseOutcome s = .ok o) :
    Entry (Text.trimSpace s) o := by
  simp only [parseOutcome] at h
  generalize Text.trimSpace s = t at h
  cases hk : kindNamed t with
  | some e =>
    obtain ⟨name, k⟩ := e
    obtain ⟨hmem, hname⟩ := kindNamed_eq_some_iff.1 hk
    rw [hk] at h
    cases h
    exact .kind hmem hname
  | none =>
    rw [hk] at h
    rcases hc : cut ':' t with ⟨code, advice⟩
    obtain ⟨-, hform⟩ := cut_eq_iff.1 hc
    rw [hc] at h
    dsimp only at h
    cases hn : Text.parseSigned? code with
    | none =>
      rw [hn] at h
      cases h
    | some n =>
      rw [hn] at h
      dsimp only at h
      obtain ⟨hnum, -, -⟩ := Text.parseSigned?_eq_some_iff.1 hn
      split_ifs at h with hrange
      have hcode : 100 ≤ n ∧ n ≤ 599 := by simpa using hrange
      -- the text was the code alone, or the code, a colon and the seconds
      rcases hform with ⟨rfl, rfl⟩ | ⟨a, rfl, rfl⟩
      · cases h
        exact .status hnum hcode.1 hcode.2
      · dsimp only at h
        cases hm : Text.parseSigned? a with
        | none =>
          rw [hm] at h
          cases h
        | some m =>
          rw [hm] at h
          dsimp only at h
          obtain ⟨hmnum, -, hmfit⟩ := Text.parseSigned?_eq_some_iff.1 hm
          split_ifs at h with hneg
          cases h
          exact .advised hnum hcode.1 hcode.2 hmnum (not_lt.1 hneg) hmfit

/-- Every entry of the grammar is read, as the outcome the grammar gives. -/
theorem parseOutcome_of_entry {s : String} {o : Outcome} (h : Entry (Text.trimSpace s) o) :
    parseOutcome s = .ok o := by
  have hmin : Text.minSigned = -9223372036854775808 := rfl
  have hmax : Text.maxSigned = 9223372036854775807 := rfl
  simp only [parseOutcome]
  generalize Text.trimSpace s = t at h ⊢
  cases h with
  | kind hk hname =>
    rw [kindNamed_eq_some_iff.2 ⟨hk, hname⟩]
    rfl
  | status hn hlo hhi =>
    rw [kindNamed_of_numeral_head hn (List.append_nil _).symm,
      cut_eq_iff.2 ⟨colon_not_mem_numeral hn, .inl ⟨rfl, rfl⟩⟩]
    dsimp only
    rw [Text.parseSigned?_eq_some_iff.2 ⟨hn, by omega, by omega⟩]
    dsimp only
    rw [if_neg (by simp; omega)]
    rfl
  | advised hn hlo hhi hm hpos hfit =>
    rename_i c r n m
    rw [kindNamed_of_numeral_head (l := ':' :: r.toList) hn (by simp),
      cut_eq_iff.2 ⟨colon_not_mem_numeral hn, .inr ⟨r, rfl, rfl⟩⟩]
    dsimp only
    rw [Text.parseSigned?_eq_some_iff.2 ⟨hn, by omega, by omega⟩]
    dsimp only
    rw [if_neg (by simp; omega), Text.parseSigned?_eq_some_iff.2 ⟨hm, by omega, hfit⟩]
    dsimp only
    rw [if_neg (not_lt.2 hpos)]
    rfl

theorem parseOutcome_eq_ok_iff {s : String} {o : Outcome} :
    parseOutcome s = .ok o ↔ Entry (Text.trimSpace s) o :=
  ⟨entry_of_parseOutcome, parseOutcome_of_entry⟩

end DryRun

/-- The advice of a header map whose one `Retry-After` value is a numeral of seconds that fits a
signed word and is not negative: at any instant, those seconds in nanoseconds, at most the
longest duration. -/
theorem retryAdvice_scripted {r : String} {m : Int} (hr : Text.IsNumeral r m) (hpos : 0 ≤ m)
    (hfit : m ≤ Text.maxSigned) (now : Int) :
    retryAdvice (some ⟨[("Retry-After", [r])]⟩) now =
      some (min (m * Time.nanosPerSecond) maxDuration) := by
  have hget : (Header.mk [("Retry-After", [r])]).get "Retry-After" = r := by
    simp [Header.get, Header.values, Header.valuesRaw, canonicalName, String.all_bool_eq,
      isTokenChar]
  have htrim : Text.trimSpace r = r :=
    Text.trimSpace_of_forall fun c hc => Text.isSpace_of_digit_or_sign (hr.mem hc)
  have hne : r.isEmpty = false := by
    obtain ⟨c, cs, hcs⟩ := hr.exists_cons
    exact String.isEmpty_eq_false_iff.2 fun h0 => by simp [h0] at hcs
  have hmin : Text.minSigned = -9223372036854775808 := rfl
  unfold retryAdvice
  simp only [Option.map_some, Option.getD_some, hget, htrim, hne, Bool.false_eq_true, if_false]
  rw [Text.parseSigned_of_isNumeral hr, if_neg (by omega)]
  dsimp only
  rw [if_neg (not_lt.2 hpos)]
  -- the seconds pass the longest duration exactly when their nanoseconds do
  have hsat : maxDuration / Time.nanosPerSecond < m ↔ maxDuration < m * Time.nanosPerSecond :=
    Int.ediv_lt_iff_lt_mul (by decide)
  by_cases hbig : maxDuration < m * Time.nanosPerSecond
  · rw [if_pos (hsat.2 hbig), min_eq_right hbig.le]
  · rw [if_neg (fun h => hbig (hsat.1 h)), min_eq_left (not_lt.1 hbig)]

/-- A script entry is read exactly when it is a kind's name, a status code, or a code with seconds,
and it builds the stated outcome. -/
theorem scripted_outcome_grammar (s : String) :
    (∀ o, DryRun.parseOutcome s = .ok o ↔ DryRun.Entry (Text.trimSpace s) o) ∧
    ((∃ o, DryRun.parseOutcome s = .ok o) ↔
      (∃ name k, (name, k) ∈ DryRun.kindNames ∧ DryRun.lowerCase (Text.trimSpace s) = name) ∨
      (∃ n, Text.IsNumeral (Text.trimSpace s) n ∧ 100 ≤ n ∧ n ≤ 599) ∨
      (∃ c r n m, Text.trimSpace s = c ++ ":" ++ r ∧ Text.IsNumeral c n ∧ 100 ≤ n ∧ n ≤ 599 ∧
        Text.IsNumeral r m ∧ 0 ≤ m ∧ m ≤ Text.maxSigned)) ∧
    (∀ (r : String) (m : Int), Text.IsNumeral r m → 0 ≤ m → m ≤ Text.maxSigned → ∀ now,
      retryAdvice (some ⟨[("Retry-After", [r])]⟩) now =
        some (min (m * Time.nanosPerSecond) maxDuration)) := by
  refine ⟨fun o => DryRun.parseOutcome_eq_ok_iff, ?_, fun r m hr hpos hfit now =>
    retryAdvice_scripted hr hpos hfit now⟩
  rw [← DryRun.exists_entry_iff]
  exact exists_congr fun o => DryRun.parseOutcome_eq_ok_iff

/-- The entry `429:5` is a response with status 429 whose header map holds `5` under
`Retry-After`, and the advice read from that header is five seconds. -/
theorem scripted_outcome_grammar_advised :
    Text.IsNumeral "5" 5 ∧ (0 : Int) ≤ 5 ∧ (5 : Int) ≤ Text.maxSigned ∧
      DryRun.parseOutcome "429:5" = .ok (.response 429 (some ⟨[("Retry-After", ["5"])]⟩) none) ∧
      retryAdvice (some ⟨[("Retry-After", ["5"])]⟩) 0 =
        some (min (5 * Time.nanosPerSecond) maxDuration) := by
  have h5 : Text.IsNumeral "5" 5 :=
    ⟨"5".toList, by decide, List.all_eq_true.1 (by decide), .inl ⟨rfl, by decide⟩⟩
  have h429 : Text.IsNumeral "429" 429 :=
    ⟨"429".toList, by decide, List.all_eq_true.1 (by decide), .inl ⟨rfl, by decide⟩⟩
  have hfit : (5 : Int) ≤ Text.maxSigned := by decide
  have htrim : Text.trimSpace "429:5" = "429" ++ ":" ++ "5" := by decide
  obtain ⟨hiff, -, hadvice⟩ := scripted_outcome_grammar "429:5"
  refine ⟨h5, by decide, hfit, (hiff _).2 ?_, hadvice "5" 5 h5 (by decide) hfit 0⟩
  rw [htrim]
  exact .advised h429 (by decide) (by decide) h5 (by decide) hfit

end HttpRetry
