import AleoFinalize.Config.Pledge

/-!
**`PLEDGE_ADDRESS` is read once, and reads back what an operator writes.**

* `fromEnvRun_first` — whatever the environment holds at each later call, every call of
  `from_env` returns the config parsed at the first one;
* `strip_padded` — stripping a piece gives back the address between its whitespace;
* **`fromEnv_padded`** — addresses joined by commas, each with any whitespace around it, are
  parsed into exactly the set of those addresses, provided none holds a comma or starts or ends
  with whitespace, and the variable is not empty.
-/

namespace AleoFinalize.Config

/-! ### The instance -/

/-- Once the instance is set, every call returns it. -/
theorem fromEnvRun_of_instance (config : PledgeConfig) :
    ∀ environs : List (Option String),
      PledgeConfig.fromEnvRun (some config) environs = List.replicate environs.length config
  | [] => rfl
  | _ :: environs => by
    simp only [PledgeConfig.fromEnvRun, PledgeConfig.fromEnv,
      fromEnvRun_of_instance config environs, List.length_cons, List.replicate_succ]

/-- `from_env` reads the environment once: every call of a run that starts with no instance
returns the config parsed from the environment the first call saw. -/
theorem fromEnvRun_first (environ : Option String) (environs : List (Option String)) :
    PledgeConfig.fromEnvRun none (environ :: environs) =
      List.replicate (environs.length + 1) ⟨pledgeAddresses environ⟩ := by
  simp only [PledgeConfig.fromEnvRun, PledgeConfig.fromEnv, fromEnvRun_of_instance,
    List.replicate_succ]

/-! ### Stripping -/

/-- An address with no whitespace at either end (`addr.strip() == addr`). -/
def Stripped (address : List Char) : Prop :=
  (∀ c ∈ address.head?, isPySpace c = false) ∧ ∀ c ∈ address.getLast?, isPySpace c = false

/-- Dropping leading whitespace leaves a list that does not start with any. -/
theorem dropWhile_isPySpace_of_head {chars : List Char}
    (front : ∀ c ∈ chars.head?, isPySpace c = false) : chars.dropWhile isPySpace = chars := by
  cases chars with
  | nil => rfl
  | cons c rest => exact List.dropWhile_cons_of_neg (by simpa using front c rfl)

/-- **Stripping a padded address gives the address.** -/
theorem strip_padded {before after address : List Char} (leading : ∀ c ∈ before, isPySpace c)
    (trailing : ∀ c ∈ after, isPySpace c) (stripped : Stripped address) :
    strip (before ++ address ++ after) = address := by
  unfold strip
  rw [List.append_assoc, List.dropWhile_append_of_pos leading]
  cases address with
  | nil =>
    rw [List.nil_append, List.dropWhile_eq_nil_iff.mpr trailing]
    rfl
  | cons c rest =>
    have kept : (c :: rest ++ after).dropWhile isPySpace = c :: rest ++ after :=
      dropWhile_isPySpace_of_head stripped.1
    rw [kept, List.reverse_append,
      List.dropWhile_append_of_pos fun a member => trailing a (List.mem_reverse.mp member),
      dropWhile_isPySpace_of_head (by rw [List.head?_reverse]; exact stripped.2),
      List.reverse_reverse]

/-! ### Reading the variable back -/

/-- An address as an operator writes it into the variable: whitespace, the address, whitespace. -/
structure PaddedAddress where
  before : List Char
  address : String
  after : List Char

/-- Its characters. -/
def PaddedAddress.text (entry : PaddedAddress) : List Char :=
  entry.before ++ entry.address.data ++ entry.after

/-- A padded address as the operator may write it: whitespace around an address that holds no
comma and does not start or end with whitespace. -/
def PaddedAddress.WellFormed (entry : PaddedAddress) : Prop :=
  (∀ c ∈ entry.before, isPySpace c) ∧ (∀ c ∈ entry.after, isPySpace c) ∧
    ',' ∉ entry.address.data ∧ Stripped entry.address.data

theorem PaddedAddress.WellFormed.comma_not_mem_text {entry : PaddedAddress}
    (formed : entry.WellFormed) :
    ',' ∉ entry.text := by
  have comma : isPySpace ',' = false := by decide
  simp only [PaddedAddress.text, List.mem_append, not_or]
  exact ⟨⟨fun member => by simp [formed.1 _ member] at comma, formed.2.2.1⟩,
    fun member => by simp [formed.2.1 _ member] at comma⟩

/-- **Addresses joined by commas read back as the set of those addresses.** -/
theorem fromEnv_padded (entries : List PaddedAddress) (listed : entries ≠ [])
    (formed : ∀ entry ∈ entries, entry.WellFormed)
    (set : [','].intercalate (entries.map PaddedAddress.text) ≠ []) :
    (PledgeConfig.fromEnv (some ⟨[','].intercalate (entries.map PaddedAddress.text)⟩) none).1 =
      ⟨(entries.map PaddedAddress.address).toFinset⟩ := by
  have split : ([','].intercalate (entries.map PaddedAddress.text)).splitOn ',' =
      entries.map PaddedAddress.text :=
    List.splitOn_intercalate _ ',' (by
      simpa using fun entry member => (formed entry member).comma_not_mem_text)
      (by simpa using listed)
  have notEmpty : (⟨[','].intercalate (entries.map PaddedAddress.text)⟩ : String) ≠ "" :=
    fun empty => set (congrArg String.data empty)
  simp only [PledgeConfig.fromEnv, pledgeAddresses, if_neg notEmpty, split, List.map_map,
    PledgeConfig.mk.injEq]
  refine congrArg List.toFinset (List.map_congr_left fun entry member => ?_)
  have well := formed entry member
  simp only [Function.comp_apply, PaddedAddress.text, strip_padded well.1 well.2.1 well.2.2.2]

/-- `PLEDGE_ADDRESS=" aleo1abc,aleo1xyz\t, aleo1abc "`: two addresses, one written twice. -/
def twoPledges : List PaddedAddress :=
  [⟨[' '], "aleo1abc", []⟩, ⟨[], "aleo1xyz", ['\t']⟩, ⟨[' '], "aleo1abc", [' ']⟩]

theorem fromEnv_padded_twoPledges :
    (twoPledges ≠ [] ∧ (∀ entry ∈ twoPledges, entry.WellFormed) ∧
      [','].intercalate (twoPledges.map PaddedAddress.text) ≠ []) ∧
    (PledgeConfig.fromEnv (some ⟨[','].intercalate (twoPledges.map PaddedAddress.text)⟩)
        none).1 = ⟨{"aleo1abc", "aleo1xyz"}⟩ :=
  have formed : ∀ entry ∈ twoPledges, entry.WellFormed := by
    simp only [twoPledges, List.mem_cons, List.mem_singleton, forall_eq_or_imp, forall_eq,
      PaddedAddress.WellFormed, Stripped]
    decide
  ⟨⟨nofun, formed, nofun⟩,
    (fromEnv_padded twoPledges nofun formed nofun).trans (congrArg PledgeConfig.mk (by decide))⟩

end AleoFinalize.Config
