import AleoFinalize.Spec.LogLine

/-!
**The access-log path reads back.**

* `unquote_quoteByte` — every byte `quote` writes reads back as that byte, whatever follows;
* `unquote_quote` — so the quoted text reads back as the UTF-8 bytes of the text;
* `question_not_mem_quote` — `quote` never writes a `?`;
* **`getPathWithQueryString_read`** — for every scope whose query string is ASCII, the field
  `get_path_with_query_string` writes reads back, split at its first `?`, as the UTF-8 bytes of
  the root path and path and as the query string: two requests are logged alike only when they
  agree on both.
-/

namespace AleoFinalize.Middleware

/-! ### Characters and bytes -/

theorem char_toNat_ofNat {n : Nat} (small : n < 0xD800) : (Char.ofNat n).toNat = n := by
  have valid : n.isValidChar := Or.inl small
  simp only [Char.ofNat, dif_pos valid, Char.ofNatAux, Char.toNat, UInt32.toNat,
    BitVec.toNat_ofNatLt]

theorem toUInt8_of_toNat {byte : UInt8} {n : Nat} (same : n = byte.toNat) : n.toUInt8 = byte :=
  UInt8.toNat.inj (by
    rw [Nat.toUInt8, UInt8.toNat_ofNat_of_lt (same ▸ byte.toNat_lt_size), same])

theorem hexValue_hexDigit {digit : Nat} (small : digit < 16) :
    hexValue (hexDigit digit) = some digit := by
  have code : (hexDigit digit).toNat = if digit < 10 then 48 + digit else 55 + digit :=
    char_toNat_ofNat (by split <;> omega)
  by_cases decimal : digit < 10
  · rw [if_pos decimal] at code
    simp only [hexValue, code, if_pos (show 48 ≤ 48 + digit ∧ 48 + digit ≤ 57 by omega),
      Option.some.injEq]
    omega
  · rw [if_neg decimal] at code
    simp only [hexValue, code, if_neg (show ¬(48 ≤ 55 + digit ∧ 55 + digit ≤ 57) by omega),
      if_pos (show 65 ≤ 55 + digit ∧ 55 + digit ≤ 70 by omega), Option.some.injEq]
    omega

/-- ASCII bytes read as characters read back as the bytes. -/
theorem map_toUInt8_ofNat {bytes : List UInt8} (ascii : ∀ byte ∈ bytes, byte.toNat < 128) :
    (bytes.map fun byte => Char.ofNat byte.toNat).map (fun c => c.toNat.toUInt8) = bytes := by
  rw [List.map_map]
  conv_rhs => rw [← List.map_id bytes]
  exact List.map_congr_left fun byte member =>
    toUInt8_of_toNat (char_toNat_ofNat (by have := ascii byte member; omega))

/-! ### Quoting reads back -/

/-- **Each byte `quote` writes reads back as that byte**, whatever follows it. -/
theorem unquote_quoteByte (byte : UInt8) (rest : List Char) :
    unquote (quoteByte byte ++ rest) = (byte :: ·) <$> unquote rest := by
  have small := byte.toNat_lt_size
  unfold quoteByte
  split_ifs with safe
  · have code : (Char.ofNat byte.toNat).toNat = byte.toNat :=
      char_toNat_ofNat (by simp only [UInt8.size] at small; omega)
    have notPercent : Char.ofNat byte.toNat ≠ '%' := fun percent => by
      have same : byte.toNat = 37 := code.symm.trans (congrArg Char.toNat percent)
      simp [quoteSafe, same] at safe
    rw [List.singleton_append, unquote.eq_def]
    dsimp only
    rw [if_neg notPercent, code, if_pos safe, toUInt8_of_toNat rfl]
  · have high : byte.toNat / 16 < 16 := by simp only [UInt8.size] at small; omega
    rw [show ['%', hexDigit (byte.toNat / 16), hexDigit (byte.toNat % 16)] ++ rest =
      '%' :: hexDigit (byte.toNat / 16) :: hexDigit (byte.toNat % 16) :: rest from rfl,
      unquote.eq_def]
    dsimp only
    rw [if_pos rfl]
    simp only [hexValue_hexDigit high, hexValue_hexDigit (Nat.mod_lt _ (by omega : 16 > 0)),
      Option.bind_eq_bind, Option.some_bind, toUInt8_of_toNat (Nat.div_add_mod byte.toNat 16)]
    cases unquote rest <;> rfl

/-- The quoted bytes read back as the bytes. -/
theorem unquote_flatMap_quoteByte :
    ∀ bytes : List UInt8, unquote (bytes.flatMap quoteByte) = some bytes
  | [] => rfl
  | byte :: bytes => by
    rw [List.flatMap_cons, unquote_quoteByte, unquote_flatMap_quoteByte bytes]
    rfl

/-- **`quote` reads back as the UTF-8 bytes of its text.** -/
theorem unquote_quote (string : String) :
    unquote (quote string).data = some string.toUTF8.data.toList :=
  unquote_flatMap_quoteByte _

/-- `quote` never writes a `?`. -/
theorem question_not_mem_quoteByte (byte : UInt8) : '?' ∉ quoteByte byte := by
  have small := byte.toNat_lt_size
  unfold quoteByte
  split_ifs with safe
  · intro member
    have same : byte.toNat = 63 := by
      rw [List.mem_singleton] at member
      rw [← char_toNat_ofNat (n := byte.toNat) (by simp only [UInt8.size] at small; omega),
        ← member]
      rfl
    simp [quoteSafe, same] at safe
  · have digit : ∀ d, d < 16 → hexDigit d ≠ '?' := fun d small equal => by
      have code := char_toNat_ofNat (n := if d < 10 then 48 + d else 55 + d) (by split <;> omega)
      rw [← hexDigit, equal] at code
      split at code <;> simp at code <;> omega
    simp only [List.mem_cons, List.mem_singleton, not_or, List.not_mem_nil]
    exact ⟨by decide, (digit _ (by simp only [UInt8.size] at small; omega)).symm,
      (digit _ (Nat.mod_lt _ (by omega))).symm, not_false⟩

theorem question_not_mem_quote (string : String) : '?' ∉ (quote string).data := by
  simp only [quote, List.mem_flatMap, not_exists, not_and]
  exact fun byte _ => question_not_mem_quoteByte byte

/-! ### The log field -/

/-- **The log field reads back as the request's path bytes and query string.** -/
theorem getPathWithQueryString_read (rootPath : Option String) (path : String)
    (queryString : List UInt8) (ascii : ∀ byte ∈ queryString, byte.toNat < 128) :
    ∃ line, getPathWithQueryString rootPath path queryString = .ok line ∧
      readLogPath line = some ((rootPath.getD "" ++ path).toUTF8.data.toList, queryString) := by
  have noQuestion : ∀ c ∈ (quote (rootPath.getD "" ++ path)).data, (c != '?') = true :=
    fun c member => bne_iff_ne.mpr fun same => question_not_mem_quote _ (same ▸ member)
  cases queryString with
  | nil =>
    refine ⟨_, rfl, ?_⟩
    simp only [readLogPath, List.takeWhile_eq_self_iff.mpr noQuestion, unquote_quote,
      List.dropWhile_eq_nil_iff.mpr noQuestion]
    rfl
  | cons byte bytes =>
    have decoded : decodeAscii (byte :: bytes) =
        .ok ⟨(byte :: bytes).map fun byte => Char.ofNat byte.toNat⟩ := by
      simp only [decodeAscii, List.all_eq_true, decide_eq_true_eq]
      exact if_pos ascii
    refine ⟨_, by simp only [getPathWithQueryString, decoded]; rfl, ?_⟩
    simp only [readLogPath, String.data_append, List.append_assoc,
      List.takeWhile_append_of_pos noQuestion, List.dropWhile_append_of_pos noQuestion]
    have stop : ∀ rest : List Char, ('?' :: rest).takeWhile (· != '?') = [] ∧
        ('?' :: rest).dropWhile (· != '?') = '?' :: rest := fun _ => ⟨rfl, rfl⟩
    simp only [List.singleton_append, (stop _).1, (stop _).2, List.append_nil, unquote_quote,
      List.drop_one, List.tail_cons, map_toUInt8_ofNat ascii]
    rfl

theorem getPathWithQueryString_read_blocks :
    (∀ byte ∈ ([112, 61, 49] : List UInt8), byte.toNat < 128) ∧
      ∃ line, getPathWithQueryString none "/blocks/é" [112, 61, 49] = .ok line ∧
        readLogPath line =
          some (((none : Option String).getD "" ++ "/blocks/é").toUTF8.data.toList,
            [112, 61, 49]) :=
  have ascii : ∀ byte ∈ ([112, 61, 49] : List UInt8), byte.toNat < 128 := by decide
  ⟨ascii, getPathWithQueryString_read none "/blocks/é" _ ascii⟩

end AleoFinalize.Middleware
