import Depository.Proofs.Settings.Variables
import Depository.Settings.DataSource
import Mathlib.Data.List.TakeWhile
import Mathlib.Tactic.Tauto

/-!
# The two readings of the database's variables

The service and the schema tools read the same five variables by different rules: to the service an
empty variable is there, and its port is any numeral; to the tools an empty variable is missing, and
their port is made of the leading digits.  In an environment that the service accepts they reach the
same database just if none of the four texts is empty and the leading digits of the port are all of
it, as they are in every plain numeral.

* `Settings.database_of_load` — the database's settings, variable by variable;
* `Number.IsPlain` — decimal digits, with a sign `+` and blanks around them if need be;
* `DataSource.mirrors_iff` — **when the schema tools reach the database of the service**, and
  `DataSource.mirrors_not`, an environment in which they do not.
-/

namespace Depository

open Schema

variable {vars : Members String} {s : Settings} {name : String}

/-! ### The service -/

namespace Settings

/-- A text variable with a default is what is there, or the default. -/
theorem text_of_orDefault {value text : String}
    (h : string.orDefault value ((Members.get? name vars).map Json.string) = .valid text) :
    text = (Members.get? name vars).getD value := by
  cases hv : Members.get? name vars with
  | none =>
    rw [hv] at h
    exact (Checked.valid.inj h).symm
  | some v =>
    rw [hv] at h
    exact (Checked.valid.inj h).symm

/-- What the service reads of the database's variables. -/
theorem database_of_load (h : load (some (environment vars)) = .ok s) :
    s.database.host = (Members.get? "POSTGRES_HOST" vars).getD "localhost" ∧
      IsNumberOf vars "POSTGRES_PORT" 5432 s.database.port ∧
      s.database.username = (Members.get? "POSTGRES_USER" vars).getD "postgres" ∧
      s.database.password = (Members.get? "POSTGRES_PASSWORD" vars).getD "postgres" ∧
      s.database.database = (Members.get? "POSTGRES_DB" vars).getD "backups" := by
  have hread := reads_of_load h
  exact ⟨text_of_orDefault (hread .host),
    isNumberOf_of_positiveOr (by decide) (hread .databasePort), text_of_orDefault (hread .user),
    text_of_orDefault (hread .password), text_of_orDefault (hread .database)⟩

end Settings

/-! ### Plain numerals -/

namespace Number

/-- Decimal digits, perhaps with a sign `+` before them and blanks around them. -/
def IsPlain (text : String) : Prop :=
  ∃ before sign digits after : List Char, text.toList = before ++ (sign ++ digits) ++ after ∧
    (∀ c ∈ before, Text.isBlank c = true) ∧ (∀ c ∈ after, Text.isBlank c = true) ∧
    (sign = [] ∨ sign = ['+']) ∧ digits ≠ [] ∧ ∀ c ∈ digits, isDigit c = true

theorem not_isBlank_of_isDigit {c : Char} (h : isDigit c = true) : Text.isBlank c = false := by
  simp only [isDigit, Bool.and_eq_true, decide_eq_true_eq, Char.le_def, UInt32.le_iff_toNat_le] at h
  have hn : 48 ≤ c.toNat ∧ c.toNat ≤ 57 := h
  simp only [Text.isBlank, Bool.or_eq_false_iff, Bool.and_eq_false_iff, decide_eq_false_iff_not,
    beq_eq_false_iff_ne]
  omega

/-- What has no blank at its ends is what is left when the blanks around it are dropped. -/
theorem strip_between {before body after : List Char} {first last : Char}
    (hbefore : ∀ c ∈ before, Text.isBlank c = true) (hafter : ∀ c ∈ after, Text.isBlank c = true)
    (hfirst : body.head? = some first) (hf : Text.isBlank first = false)
    (hlast : body.getLast? = some last) (hl : Text.isBlank last = false) :
    (before ++ body ++ after).dropWhile Text.isBlank = body ++ after ∧
      Text.strip Text.isBlank (before ++ body ++ after) = body := by
  have hdrop : ∀ (cs rest : List Char) (c : Char), cs.head? = some c → Text.isBlank c = false →
      (cs ++ rest).dropWhile Text.isBlank = cs ++ rest := by
    intro cs rest c hc hblank
    obtain ⟨cs', rfl⟩ := List.head?_eq_some_iff.1 hc
    rw [List.cons_append, List.dropWhile_cons_of_neg (by simp [hblank])]
  have hstart : (before ++ body ++ after).dropWhile Text.isBlank = body ++ after := by
    rw [List.append_assoc, List.dropWhile_append_of_pos hbefore]
    exact hdrop body after first hfirst hf
  refine ⟨hstart, ?_⟩
  rw [Text.strip, hstart, List.reverse_append,
    List.dropWhile_append_of_pos fun c hc => hafter c (List.mem_reverse.1 hc)]
  have hend := hdrop body.reverse [] last (by rw [List.head?_reverse, hlast]) hl
  rw [List.append_nil] at hend
  rw [hend, List.reverse_reverse]

/-- Digits alone are a numeral without a fraction and without an exponent. -/
theorem ofChars?_digits {digits : List Char} (h : ∀ c ∈ digits, isDigit c = true) :
    Numeral.ofChars? digits = some ⟨digits, none, 0⟩ := by
  have htake : digits.takeWhile isDigit = digits := List.takeWhile_eq_self_iff.2 h
  have hdrop : digits.dropWhile isDigit = [] := List.dropWhile_eq_nil_iff.2 h
  rw [Numeral.ofChars?, htake, hdrop]
  rfl

/-- The number of digits alone, where it is an integer. -/
theorem ofUnsigned_digits {digits : List Char} (hne : digits ≠ [])
    (h : ∀ c ∈ digits, isDigit c = true) {i : Int}
    (hi : ofUnsigned false digits = .integer i) :
    ofRatio false (digitsValue digits) 1 = .integer i := by
  have hword : digits ≠ "Infinity".toList := by
    rintro rfl
    exact absurd (h 'I' (by decide)) (by decide)
  have hdigit : Numeral.hasDigit ⟨digits, none, 0⟩ = true := by simp [Numeral.hasDigit, hne]
  have hvalue : Numeral.value false ⟨digits, none, 0⟩ =
      ofDecimal false (digitsValue digits) 0 := by simp [Numeral.value]
  rw [ofUnsigned, if_neg hword, ofChars?_digits h] at hi
  simp only [hdigit, if_true, hvalue] at hi
  rw [ofDecimal.eq_def] at hi
  split at hi
  · next hzero => rw [hzero, ofRatio, if_pos rfl, hi]
  · -- the numeral is not so long that it counts as an infinity, and it is not short
    simp only at hi
    split at hi
    · cases hi
    · split at hi
      · omega
      · simpa using hi

/-- A text that begins with a digit is read as an unsigned numeral, if it is one of digits. -/
theorem ofUnsigned_of_digits {digits : List Char} {text : String}
    (htext : Text.strip Text.isBlank text.toList = digits) (hne : digits ≠ [])
    (h : ∀ c ∈ digits, isDigit c = true) : ofText text = ofUnsigned false digits := by
  have hnot : ∀ c ∈ digits, c ≠ '-' ∧ c ≠ '+' ∧ c ≠ 'x' ∧ c ≠ 'X' ∧ c ≠ 'o' ∧ c ≠ 'O' ∧ c ≠ 'b' ∧
      c ≠ 'B' := by
    intro c hc
    have hdigit := h c hc
    refine ⟨?_, ?_, ?_, ?_, ?_, ?_, ?_, ?_⟩ <;> rintro rfl <;> exact absurd hdigit (by decide)
  rw [ofText, htext]
  split
  · exact absurd rfl hne
  · exact absurd rfl (hnot '-' (List.mem_cons_self ..)).1
  · exact absurd rfl (hnot '+' (List.mem_cons_self ..)).2.1
  · next c rest =>
    obtain ⟨-, -, hx, hX, ho, hO, hb, hB⟩ := hnot c (by simp)
    rw [if_neg (by simp [hx, hX]), if_neg (by simp [ho, hO]), if_neg (by simp [hb, hB])]
  · rfl

/-- The leading digits are those that stand after blanks and a sign `+`. -/
theorem leadingInteger_of_dropWhile {text : String} {sign digits after : List Char}
    (hstart : text.toList.dropWhile Text.isBlank = sign ++ digits ++ after)
    (hsign : sign = [] ∨ sign = ['+']) (hne : digits ≠ [])
    (hdigits : ∀ c ∈ digits, isDigit c = true) (hafter : ∀ c ∈ after, Text.isBlank c = true) :
    DataSource.leadingInteger text = ofRatio false (digitsValue digits) 1 := by
  have hend : after.takeWhile isDigit = [] := by
    cases after with
    | nil => rfl
    | cons c rest =>
      have hblank := hafter c (List.mem_cons_self ..)
      refine List.takeWhile_cons_of_neg fun hdigit => ?_
      rw [not_isBlank_of_isDigit hdigit] at hblank
      cases hblank
  have htake : (digits ++ after).takeWhile isDigit = digits := by
    rw [List.takeWhile_append_of_pos hdigits, hend, List.append_nil]
  obtain ⟨d, ds, rfl⟩ := List.exists_cons_of_ne_nil hne
  obtain rfl | rfl := hsign
  · have hd := hdigits d (List.mem_cons_self ..)
    have hminus : d ≠ '-' := by rintro rfl; exact absurd hd (by decide)
    have hplus : d ≠ '+' := by rintro rfl; exact absurd hd (by decide)
    rw [List.cons_append] at htake
    simp [DataSource.leadingInteger, hstart, hminus, hplus, htake]
  · rw [List.cons_append] at htake
    simp [DataSource.leadingInteger, hstart, htake]

/-- **Of a plain numeral the leading digits are all of it.** -/
theorem leadingInteger_of_isPlain {text : String} (h : IsPlain text) {i : Int}
    (hi : ofText text = .integer i) : DataSource.leadingInteger text = .integer i := by
  obtain ⟨before, sign, digits, after, htext, hbefore, hafter, hsign, hne, hdigits⟩ := h
  have hlast : digits.getLast hne ∈ digits := List.getLast_mem hne
  have hl := not_isBlank_of_isDigit (hdigits _ hlast)
  have hgetLast := List.getLast?_eq_some_getLast hne
  obtain ⟨d, ds, rfl⟩ := List.exists_cons_of_ne_nil hne
  obtain rfl | rfl := hsign
  · have hfirst : ([] ++ d :: ds).head? = some d := rfl
    have hd := not_isBlank_of_isDigit (hdigits d (List.mem_cons_self ..))
    obtain ⟨hstart, hstrip⟩ := strip_between hbefore hafter hfirst hd hgetLast hl
    rw [← htext] at hstart hstrip
    rw [ofUnsigned_of_digits hstrip hne hdigits] at hi
    rw [leadingInteger_of_dropWhile hstart (.inl rfl) hne hdigits hafter]
    exact ofUnsigned_digits hne hdigits hi
  · have hfirst : (['+'] ++ d :: ds).head? = some '+' := rfl
    have hsigned : (['+'] ++ d :: ds).getLast? = some ((d :: ds).getLast hne) := by
      simpa using hgetLast
    obtain ⟨hstart, hstrip⟩ := strip_between hbefore hafter hfirst rfl hsigned hl
    rw [← htext] at hstart hstrip
    rw [ofText, hstrip] at hi
    rw [leadingInteger_of_dropWhile hstart (.inr rfl) hne hdigits hafter]
    exact ofUnsigned_digits hne hdigits hi

end Number

/-! ### The schema tools -/

namespace DataSource

/-- The schema tools reach the database in the way that the service does. -/
structure Mirrors (d : DataSource) (db : DatabaseSettings) : Prop where
  host : d.host = .string db.host
  port : d.port = .integer db.port
  username : d.username = .string db.username
  password : d.password = .string db.password
  database : d.database = .string db.database

/-- To the schema tools an empty variable is missing. -/
theorem setting_environment (vars : Members String) (name value : String) :
    setting (environment vars) name value =
      .string (((Members.get? name vars).filter (· ≠ "")).getD value) := by
  rw [setting, get?_environment]
  cases Members.get? name vars with
  | none => rfl
  | some text =>
    by_cases h : text = ""
    · rw [h]
      rfl
    · have htrue : Cell.isTruthy (some (.string text)) = true := Cell.isTruthy_ofText.2 h
      rw [Option.map_some, if_pos htrue, Option.filter_some_pos (by simpa using h)]
      rfl

/-- A text with a default is the same to the schema tools and to the service, unless it is empty. -/
theorem setting_eq_iff {value : String} (h : value ≠ "") :
    setting (environment vars) name value = .string ((Members.get? name vars).getD value) ↔
      Members.get? name vars ≠ some "" := by
  rw [setting_environment, Json.string.injEq]
  cases Members.get? name vars with
  | none => simp
  | some text =>
    by_cases hempty : text = ""
    · rw [hempty, Option.filter_some_neg (by simp)]
      simp [h]
    · rw [Option.filter_some_pos (by simpa using hempty)]
      simpa using hempty

/-- The port that the service reads is that of a text which is not empty, or the default. -/
theorem port_of_load (h : Settings.load (some (environment vars)) = .ok s) :
    setting (environment vars) "POSTGRES_PORT" "5432" =
        .string ((Members.get? "POSTGRES_PORT" vars).getD "5432") ∧
      Number.ofText ((Members.get? "POSTGRES_PORT" vars).getD "5432") =
        .integer s.database.port := by
  obtain ⟨-, ⟨hpositive, hnumber⟩, -⟩ := Settings.database_of_load h
  cases htext : Members.get? "POSTGRES_PORT" vars with
  | none =>
    rw [htext] at hnumber
    have hdefault : Number.ofText "5432" = .integer 5432 := by decide
    refine ⟨?_, hdefault.trans hnumber⟩
    rw [setting_environment, htext]
    rfl
  | some text =>
    rw [htext] at hnumber
    refine ⟨?_, hnumber⟩
    rw [← htext]
    refine (setting_eq_iff (by decide)).2 ?_
    rw [htext]
    rintro hempty
    -- an empty port would be zero
    obtain rfl := Option.some.inj hempty
    have hzero : Number.ofText "" = .integer 0 := by decide
    have hport : (0 : Int) = s.database.port := Number.integer.inj (hzero.symm.trans hnumber)
    omega

/-- **When the schema tools reach the database of the service.**  In an environment that the service
accepts, they have a data source as well, and it mirrors the settings of the service if and only if
none of the four texts is empty and the leading digits of the port, if one is given, make the port
of the service; which they do in every plain numeral. -/
theorem mirrors_iff (h : Settings.load (some (environment vars)) = .ok s) :
    ∃ d, ofEnvironment? (environment vars) = some d ∧
      (d.Mirrors s.database ↔
        (∀ name ∈ ["POSTGRES_HOST", "POSTGRES_USER", "POSTGRES_PASSWORD", "POSTGRES_DB"],
          Members.get? name vars ≠ some "") ∧
        ∀ text, Members.get? "POSTGRES_PORT" vars = some text →
          leadingInteger text = .integer s.database.port) ∧
      ∀ text, Members.get? "POSTGRES_PORT" vars = some text → Number.IsPlain text →
        leadingInteger text = .integer s.database.port := by
  obtain ⟨hhost, -, huser, hpassword, hdatabase⟩ := Settings.database_of_load h
  obtain ⟨hsetting, hnumber⟩ := port_of_load h
  refine ⟨⟨setting (environment vars) "POSTGRES_HOST" "localhost",
    leadingInteger ((Members.get? "POSTGRES_PORT" vars).getD "5432"),
    setting (environment vars) "POSTGRES_USER" "postgres",
    setting (environment vars) "POSTGRES_PASSWORD" "postgres",
    setting (environment vars) "POSTGRES_DB" "backups"⟩, ?told, ?mirrors, ?plain⟩
  case told =>
    rw [ofEnvironment?, hsetting]
    rfl
  case mirrors =>
    have hport : leadingInteger ((Members.get? "POSTGRES_PORT" vars).getD "5432") =
          .integer s.database.port ↔
        ∀ text, Members.get? "POSTGRES_PORT" vars = some text →
          leadingInteger text = .integer s.database.port := by
      cases htext : Members.get? "POSTGRES_PORT" vars with
      | none =>
        rw [htext] at hnumber
        have hdefault : leadingInteger "5432" = Number.ofText "5432" := by decide
        simp only [Option.getD_none, hdefault, reduceCtorEq, false_imp_iff, implies_true,
          iff_true]
        exact hnumber
      | some text => simp
    have hmirrors : ∀ d : DataSource, d.Mirrors s.database ↔ d.host = .string s.database.host ∧
        d.port = .integer s.database.port ∧ d.username = .string s.database.username ∧
        d.password = .string s.database.password ∧
        d.database = .string s.database.database := fun d =>
      ⟨fun h => ⟨h.host, h.port, h.username, h.password, h.database⟩,
        fun ⟨h₁, h₂, h₃, h₄, h₅⟩ => ⟨h₁, h₂, h₃, h₄, h₅⟩⟩
    rw [hmirrors, hhost, huser, hpassword, hdatabase, setting_eq_iff (by decide),
      setting_eq_iff (by decide), setting_eq_iff (by decide), setting_eq_iff (by decide), hport]
    simp only [List.forall_mem_cons, List.not_mem_nil, false_imp_iff, implies_true, and_true]
    tauto
  case plain =>
    intro text htext hplain
    rw [htext] at hnumber
    exact Number.leadingInteger_of_isPlain hplain hnumber

/-- The variables of a process: the key that the service needs, and these. -/
def withKey (vars : Members String) : Members String :=
  ("STORAGE_ENCRYPTION_KEY", "0123456789abcdef0123456789abcdef") :: vars

/-- A host and a port between blanks, which both read alike. -/
theorem mirrors_iff_blanks :
    let vars := withKey [("POSTGRES_HOST", "db"), ("POSTGRES_PORT", " +6543 ")]
    ∃ s d, Settings.load (some (environment vars)) = .ok s ∧
      ofEnvironment? (environment vars) = some d ∧ d.Mirrors s.database := by
  intro vars
  obtain ⟨s, hs⟩ : ∃ s, Settings.load (some (environment vars)) = .ok s := ⟨_, rfl⟩
  obtain ⟨d, hd, hmirrors, hport⟩ := mirrors_iff hs
  refine ⟨s, d, hs, hd, hmirrors.2 ⟨by decide, fun text htext => hport text htext ?_⟩⟩
  obtain rfl : " +6543 " = text := Option.some.inj htext
  have hblank : ∀ c ∈ [' '], Text.isBlank c = true := List.forall_mem_singleton.2 rfl
  exact ⟨[' '], ['+'], ['6', '5', '4', '3'], [' '], by decide, hblank, hblank, .inr rfl, nofun,
    List.all_eq_true.1 rfl⟩

/-- **The schema tools reach another database** with an empty password and a port with an
exponent. -/
theorem mirrors_not :
    let vars := withKey [("POSTGRES_PASSWORD", ""), ("POSTGRES_PORT", "1e3")]
    ∃ s d, Settings.load (some (environment vars)) = .ok s ∧
      ofEnvironment? (environment vars) = some d ∧
      s.database.password = "" ∧ d.password = .string "postgres" ∧
      s.database.port = 1000 ∧ d.port = .integer 1 := by
  refine ⟨_, _, rfl, rfl, ?_, ?_, ?_, ?_⟩
  · rfl
  · rfl
  · rfl
  · rfl

end DataSource

end Depository
