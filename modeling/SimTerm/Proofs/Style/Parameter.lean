import SimTerm.Proofs.Text.Words
import SimTerm.Style.Control

/-!
# Numbers in Control Sequences

Numbers are written in decimal with semicolons between them. What stands between
two semicolons is a token, and it is read from its front. The digits there, of any
script, are its number, whatever stands behind them. A token that begins with
something else counts as zero, and so does an empty one. Reading gives up where
there are more than `Text.maxDigits` digits.

Tokens that are joined with semicolons are taken apart at them again, so the
numbers of a joint body are those of its tokens (`parameters?_tokens`). A written
number is a token: it uses the ten ASCII digits only, and none of them is a
semicolon or a letter, so neither the cut into tokens nor the search for the end
of the sequence can go wrong inside a number.

## Main definitions

* `tokenValue`: The number of a token.
* `IsToken`: What can be joined with semicolons and read.

## Theorems

* `digitValue?_of_isDigit`: The value of an ASCII digit.
* `decimalValue_eq_ofDigitChars`: The value of a run of them.
* `parameters?_tokens`: The numbers of joined tokens are those of the tokens.
* `tokenValue_toDigits`, `parameters?_joinCodes`: Written numbers are read back.
* `letterless_intercalate`, `joinCodes_letterless`: Joined tokens and written
  numbers have no letters.
-/

namespace SimTerm

namespace Text

/-- The value of an ASCII digit is its distance from the zero. -/
theorem digitValue?_of_isDigit (c : Char) (h : c.isDigit = true) :
    digitValue? c = some (c.toNat - '0'.toNat) := by
  rw [Char.isDigit, Bool.and_eq_true, decide_eq_true_eq, decide_eq_true_eq] at h
  rw [digitValue?, if_pos]
  exact h

theorem isDigit_of_isDigit (c : Char) (h : c.isDigit = true) : isDigit c = true := by
  rw [isDigit, digitValue?_of_isDigit c h, Option.isSome_some]

/-- Among ASCII digits the value of a run is the usual one. -/
theorem decimalValue_eq_ofDigitChars (cs : List Char) (h : ∀ c ∈ cs, c.isDigit = true) :
    decimalValue cs = Nat.ofDigitChars 10 cs 0 := by
  -- Both folds take the same steps from every value they may have reached.
  have hfold : ∀ start : Nat, cs.foldl (fun n c => 10 * n + (digitValue? c).getD 0) start
      = cs.foldl (fun n c => 10 * n + (c.toNat - '0'.toNat)) start := by
    induction cs with
    | nil => exact fun start => rfl
    | cons c cs ih =>
        intro start
        rw [List.foldl_cons, List.foldl_cons, digitValue?_of_isDigit c (h c List.mem_cons_self),
          Option.getD_some, ih (fun d hd => h d (List.mem_cons_of_mem _ hd))]
  rw [decimalValue, hfold, Nat.ofDigitChars_eq_foldl]

end Text

theorem isDigit_of_mem_toDigits (n : Nat) (c : Char) (h : c ∈ Nat.toDigits 10 n) :
    c.isDigit = true :=
  Nat.isDigit_of_mem_toDigits (by omega) (by omega) h

theorem takeWhile_toDigits (n : Nat) :
    (Nat.toDigits 10 n).takeWhile Text.isDigit = Nat.toDigits 10 n := by
  rw [List.takeWhile_eq_self_iff]
  exact fun c hc => Text.isDigit_of_isDigit c (isDigit_of_mem_toDigits n c hc)

/-- The number that the digits at the front of a token write. It is zero if there
    are none. -/
def tokenValue (t : List Char) : Nat := Text.decimalValue (t.takeWhile Text.isDigit)

/-- Some characters that can stand between two semicolons and be read. -/
structure IsToken (t : List Char) : Prop where
  /-- A letter would end the sequence. -/
  letterless : ∀ c ∈ t, c.isAlpha = false
  /-- A semicolon would end the token. -/
  whole : ';' ∉ t
  /-- The digits at the front are not too many. -/
  short : (t.takeWhile Text.isDigit).length ≤ Text.maxDigits

instance (t : List Char) : Decidable (IsToken t) :=
  -- Along the token. The search for an instance also finds a walk over all characters.
  haveI : Decidable (∀ c ∈ t, c.isAlpha = false) := List.decidableBAll _ _
  decidable_of_iff ((∀ c ∈ t, c.isAlpha = false) ∧ ';' ∉ t ∧
      (t.takeWhile Text.isDigit).length ≤ Text.maxDigits)
    ⟨fun h => ⟨h.1, h.2.1, h.2.2⟩, fun h => ⟨h.letterless, h.whole, h.short⟩⟩

theorem parameter?_token (t : List Char) (h : IsToken t) : parameter? t = some (tokenValue t) := by
  cases hdigits : t.takeWhile Text.isDigit with
  | nil =>
      -- No digits write the number zero as well.
      rw [parameter?, tokenValue, hdigits]
      rfl
  | cons d ds =>
      have hshort := h.short
      rw [hdigits] at hshort
      rw [parameter?, tokenValue, hdigits, List.isEmpty_cons, if_neg Bool.false_ne_true,
        Text.readDecimal?, if_pos hshort]

/-- The numbers of joined tokens are those of the tokens. -/
theorem parameters?_tokens (tokens : List (List Char)) (hne : tokens ≠ [])
    (h : ∀ t ∈ tokens, IsToken t) :
    parameters? ([';'].intercalate tokens) = some (tokens.map tokenValue) := by
  rw [parameters?, List.splitOn_intercalate ';' (fun t ht => (h t ht).whole) hne]
  clear hne
  induction tokens with
  | nil => rfl
  | cons t tokens ih =>
      rw [List.mapM_cons, parameter?_token t (h t List.mem_cons_self),
        ih (fun u hu => h u (List.mem_cons_of_mem t hu))]
      rfl

theorem tokenValue_toDigits (n : Nat) : tokenValue (Nat.toDigits 10 n) = n := by
  rw [tokenValue, takeWhile_toDigits,
    Text.decimalValue_eq_ofDigitChars _ (isDigit_of_mem_toDigits n), Nat.ofDigitChars_ten_toDigits]

theorem isAlpha_of_isDigit (c : Char) (h : c.isDigit = true) : c.isAlpha = false := by
  have hdigit : 48 ≤ c.val.toNat ∧ c.val.toNat ≤ 57 := by
    rw [Char.isDigit, Bool.and_eq_true, decide_eq_true_eq, decide_eq_true_eq] at h
    exact h
  -- The letters start at 65, behind the last digit.
  have hupper : ¬ (65 ≤ c.val.toNat ∧ c.val.toNat ≤ 90) := by omega
  have hlower : ¬ 97 ≤ c.val.toNat := by omega
  have hisUpper : c.isUpper = false := decide_eq_false hupper
  have hisLower : c.isLower = false := Bool.and_eq_false_imp.mpr (fun h97 =>
    absurd (of_decide_eq_true h97) hlower)
  exact Bool.or_eq_false_iff.mpr ⟨hisUpper, hisLower⟩

/-- Tokens without letters have none when they are joined. -/
theorem letterless_intercalate (tokens : List (List Char))
    (h : ∀ t ∈ tokens, ∀ c ∈ t, c.isAlpha = false) :
    ∀ c ∈ [';'].intercalate tokens, c.isAlpha = false := by
  intro c hc
  rcases Text.mem_of_mem_intercalate ';' c tokens hc with rfl | ⟨t, ht, hmem⟩
  · rfl
  · exact h t ht c hmem

/-- Written numbers have no letters. -/
theorem joinCodes_letterless (ns : List Nat) : ∀ c ∈ Style.joinCodes ns, c.isAlpha = false := by
  refine letterless_intercalate _ ?_
  intro digits hdigits c hc
  rcases List.mem_map.mp hdigits with ⟨n, _, rfl⟩
  exact isAlpha_of_isDigit c (isDigit_of_mem_toDigits n c hc)

theorem isToken_toDigits (n : Nat) (h : (Nat.toDigits 10 n).length ≤ Text.maxDigits) :
    IsToken (Nat.toDigits 10 n) where
  letterless := fun c hc => isAlpha_of_isDigit c (isDigit_of_mem_toDigits n c hc)
  whole := fun hc => absurd (isDigit_of_mem_toDigits n ';' hc) (by decide)
  short := by
    rw [takeWhile_toDigits]
    exact h

/-- Numbers with semicolons between them are read back, if none of them has too many
    digits. -/
theorem parameters?_joinCodes (ns : List Nat) (hne : ns ≠ [])
    (h : ∀ n ∈ ns, (Nat.toDigits 10 n).length ≤ Text.maxDigits) :
    parameters? (Style.joinCodes ns) = some ns := by
  have htokens : ∀ t ∈ ns.map (Nat.toDigits 10), IsToken t := by
    intro t ht
    rcases List.mem_map.mp ht with ⟨n, hn, rfl⟩
    exact isToken_toDigits n (h n hn)
  rw [Style.joinCodes, parameters?_tokens _ (fun hnil => hne (List.map_eq_nil_iff.mp hnil)) htokens,
    List.map_map]
  exact congrArg some (List.map_id'' tokenValue_toDigits ns)

end SimTerm
