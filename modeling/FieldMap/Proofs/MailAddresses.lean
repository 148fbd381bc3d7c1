import FieldMap.Proofs.Forms

/-!
# Mail addresses

A mail address is what a regular expression matches (`Grammar.isEmail_iff_mem_addressForm`): a
mailbox, ``[A-Za-z0-9.!#$%&'*+/=?^_`{|}~-]+``, then an at sign, and then a domain,
`[A-Za-z0-9-]+(\.[A-Za-z0-9-]+)*`. The points of a domain split it into labels
(`Grammar.mem_domainForm_iff`), so none of them stands at an end or beside another one, and no
character of an address is blank or outside ASCII (`Validator.check_email_accepts`).
-/

namespace FieldMap

open scoped Computability

namespace Grammar

variable {text mailbox domain : List Char} {c : Char}

/-! ## Domains -/

/-- Domains: labels with points between them. -/
def domainForm : Language Char :=
  run isLabelChar * (one (· = '.') * run isLabelChar)∗

theorem point_cons_mem_iff {part : List Char} : part ∈ one (· = '.') * run isLabelChar ↔
    ∃ label ∈ run isLabelChar, part = '.' :: label := by
  rw [Language.mem_mul]
  constructor
  · rintro ⟨point, ⟨c, hc, rfl⟩, label, hl, rfl⟩
    exact ⟨label, hl, by rw [of_decide_eq_true hc]; rfl⟩
  · rintro ⟨label, hl, rfl⟩
    exact ⟨['.'], ⟨'.', rfl, rfl⟩, label, hl, rfl⟩

/-- A label and parts that begin with a point each are split into labels. -/
theorem mem_run_of_mem_splitOn {first : List Char} {parts : List (List Char)}
    (hf : first ∈ run isLabelChar)
    (hp : ∀ part ∈ parts, part ∈ one (· = '.') * run isLabelChar) :
    ∀ label ∈ (first ++ parts.flatten).splitOn '.', label ∈ run isLabelChar := by
  have hone {label : List Char} (hl : label ∈ run isLabelChar) : label.splitOn '.' = [label] :=
    List.splitOn_eq_singleton (not_mem_of_mem_run hl (by decide))
  induction parts generalizing first with
  | nil =>
    rw [List.flatten_nil, List.append_nil, hone hf]
    exact List.forall_mem_singleton.mpr hf
  | cons part parts ih =>
    obtain ⟨hpart, hparts⟩ := List.forall_mem_cons.mp hp
    obtain ⟨label, hl, rfl⟩ := point_cons_mem_iff.mp hpart
    rw [List.flatten_cons, List.cons_append, List.splitOn_append_cons_self, hone hf]
    exact List.forall_mem_cons.mpr ⟨hf, ih hl hparts⟩

theorem intercalate_mem_domainForm {first : List Char} {labels : List (List Char)}
    (h : ∀ label ∈ first :: labels, label ∈ run isLabelChar) :
    ['.'].intercalate (first :: labels) ∈ domainForm := by
  induction labels generalizing first with
  | nil =>
    rw [List.intercalate_singleton]
    exact ⟨first, h first List.mem_cons_self, [], Language.nil_mem_kstar _, List.append_nil first⟩
  | cons label labels ih =>
    obtain ⟨hf, hrest⟩ := List.forall_mem_cons.mp h
    obtain ⟨second, hs, more, hm, he⟩ := Language.mem_mul.mp (ih hrest)
    obtain ⟨parts, rfl, hparts⟩ := Language.mem_kstar.mp hm
    -- The label that came first, `second`, is now the first part, with the new point before it.
    refine Language.mem_mul.mpr ⟨first, hf, (('.' :: second) :: parts).flatten,
      Language.mem_kstar.mpr ⟨_, rfl, List.forall_mem_cons.mpr
        ⟨point_cons_mem_iff.mpr ⟨second, hs, rfl⟩, hparts⟩⟩, ?_⟩
    rw [List.intercalate_cons_cons, ← he]
    simp

/-- A domain is split into its labels at its points. -/
theorem mem_domainForm_iff :
    domain ∈ domainForm ↔ ∀ label ∈ domain.splitOn '.', label ∈ run isLabelChar := by
  constructor
  · rintro ⟨first, hf, rest, hr, rfl⟩
    obtain ⟨parts, rfl, hparts⟩ := Language.mem_kstar.mp hr
    exact mem_run_of_mem_splitOn hf hparts
  · intro h
    obtain ⟨first, labels, hsplit⟩ := List.exists_cons_of_ne_nil (List.splitOn_ne_nil '.' domain)
    rw [hsplit] at h
    have hjoin : ['.'].intercalate (domain.splitOn '.') = domain := List.intercalate_splitOn '.'
    rw [← hjoin, hsplit]
    exact intercalate_mem_domainForm h

/-- There is something between two points, and between a point and an end. -/
theorem not_mem_domainForm (h : domain.head? = some '.' ∨ domain.getLast? = some '.' ∨
    ['.', '.'] <:+: domain) : domain ∉ domainForm := by
  have hnil : [] ∈ domain.splitOn '.' := by
    obtain h | h | ⟨before, after, rfl⟩ := h
    · obtain ⟨after, rfl⟩ := List.head?_eq_some_iff.mp h
      exact List.splitOn_append_cons_self [] after ▸ List.mem_cons_self
    · obtain ⟨before, rfl⟩ := List.getLast?_eq_some_iff.mp h
      rw [List.splitOn_append_cons_self]
      exact List.mem_append_right _ List.mem_cons_self
    · rw [List.append_assoc, List.cons_append, List.splitOn_append_cons_self]
      exact List.mem_append_right _
        (List.splitOn_append_cons_self [] after ▸ List.mem_cons_self)
  exact fun hd => (mem_run_iff.mp (mem_domainForm_iff.mp hd [] hnil)).1 rfl

theorem isLabelChar_of_mem_domainForm (h : domain ∈ domainForm) (hc : c ∈ domain) :
    c = '.' ∨ isLabelChar c = true := by
  obtain ⟨first, hf, rest, hr, rfl⟩ := Language.mem_mul.mp h
  obtain ⟨parts, rfl, hparts⟩ := Language.mem_kstar.mp hr
  obtain hc | hc := List.mem_append.mp hc
  · exact .inr ((mem_run_iff.mp hf).2 c hc)
  · obtain ⟨part, hp, hc⟩ := List.mem_flatten.mp hc
    obtain ⟨label, hl, rfl⟩ := point_cons_mem_iff.mp (hparts part hp)
    exact (List.mem_cons.mp hc).imp_right ((mem_run_iff.mp hl).2 c)

/-! ## Addresses -/

/-- Mail addresses. -/
def addressForm : Language Char :=
  run isMailboxChar * one (· = '@') * domainForm

/-- A text is the mail address of a mailbox in a domain. -/
structure IsAddress (text mailbox domain : List Char) : Prop where
  split : text = mailbox ++ '@' :: domain
  oneAt : text.count '@' = 1
  mailboxNonempty : mailbox ≠ []
  mailboxChars : ∀ c ∈ mailbox,
    c.isAlphanum = true ∨ c ∈ ".!#$%&'*+/=?^_`\x7b|\x7d~-".toList
  labelNonempty : ∀ label ∈ domain.splitOn '.', label ≠ []
  labelChars : ∀ label ∈ domain.splitOn '.', ∀ c ∈ label, c.isAlphanum = true ∨ c = '-'

theorem isMailboxChar_eq_true_iff : isMailboxChar c = true ↔
    c.isAlphanum = true ∨ c ∈ ".!#$%&'*+/=?^_`\x7b|\x7d~-".toList := by
  rw [isMailboxChar, Bool.or_eq_true, List.contains_iff_mem]

theorem isLabelChar_eq_true_iff : isLabelChar c = true ↔ c.isAlphanum = true ∨ c = '-' := by
  rw [isLabelChar, Bool.or_eq_true, decide_eq_true_eq]

theorem at_not_mem_of_mem_domainForm (h : domain ∈ domainForm) : '@' ∉ domain := fun hc =>
  (isLabelChar_of_mem_domainForm h hc).elim (by decide) (by decide)

theorem all_isRun_iff_mem_domainForm :
    (domain.splitOn '.').all (isRun isLabelChar) = true ↔ domain ∈ domainForm := by
  simp only [List.all_eq_true, isRun_iff_mem_run, mem_domainForm_iff]

/-- An address is what has its form on both sides of its first at sign. -/
theorem isEmail_eq_true_iff : isEmail text = true ↔ ∃ mailbox domain,
    text = mailbox ++ '@' :: domain ∧ mailbox ∈ run isMailboxChar ∧ domain ∈ domainForm := by
  constructor
  · intro h
    -- What `dropWhile` leaves begins with the at sign it stopped at.
    have hcut := List.takeWhile_append_dropWhile (p := (· ≠ '@')) (l := text)
    rw [isEmail] at h
    split at h <;> [cases h; skip]
    rename_i separator domain hrest
    have hat : separator = '@' := by
      have := List.head?_dropWhile_not (· ≠ '@') text
      rw [hrest] at this
      simpa using this
    rw [Bool.and_eq_true, isRun_iff_mem_run, all_isRun_iff_mem_domainForm] at h
    rw [hrest, hat] at hcut
    exact ⟨_, domain, hcut.symm, h⟩
  · rintro ⟨mailbox, domain, rfl, hm, hd⟩
    have hat : '@' ∉ mailbox := not_mem_of_mem_run hm (by decide)
    rw [isEmail, takeWhile_ne_append hat, dropWhile_ne_append hat]
    show (isRun isMailboxChar mailbox && (domain.splitOn '.').all (isRun isLabelChar)) = true
    rw [Bool.and_eq_true, isRun_iff_mem_run, all_isRun_iff_mem_domainForm]
    exact ⟨hm, hd⟩

theorem isEmail_iff_mem_addressForm : isEmail text = true ↔ text ∈ addressForm := by
  rw [isEmail_eq_true_iff, addressForm, mul_assoc, Language.mem_mul]
  constructor
  · rintro ⟨mailbox, domain, rfl, hm, hd⟩
    exact ⟨mailbox, hm, '@' :: domain,
      Language.mem_mul.mpr ⟨['@'], ⟨'@', rfl, rfl⟩, domain, hd, rfl⟩, rfl⟩
  · rintro ⟨mailbox, hm, rest, hr, rfl⟩
    obtain ⟨sign, ⟨c, hc, rfl⟩, domain, hd, rfl⟩ := Language.mem_mul.mp hr
    rw [of_decide_eq_true hc]
    exact ⟨mailbox, domain, rfl, hm, hd⟩

theorem isEmail_iff_isAddress :
    isEmail text = true ↔ ∃ mailbox domain, IsAddress text mailbox domain := by
  rw [isEmail_eq_true_iff]
  constructor
  · rintro ⟨mailbox, domain, rfl, hm, hd⟩
    have hat : '@' ∉ mailbox := not_mem_of_mem_run hm (by decide)
    have hcount : (mailbox ++ '@' :: domain).count '@' = 1 := by
      rw [List.count_append, List.count_cons_self, List.count_eq_zero.mpr hat,
        List.count_eq_zero.mpr (at_not_mem_of_mem_domainForm hd)]
    have hlabel {label : List Char} (hl : label ∈ domain.splitOn '.') :=
      mem_run_iff.mp (mem_domainForm_iff.mp hd label hl)
    obtain ⟨hne, hchars⟩ := mem_run_iff.mp hm
    exact ⟨mailbox, domain, rfl, hcount, hne,
      fun c hc => isMailboxChar_eq_true_iff.mp (hchars c hc), fun label hl => (hlabel hl).1,
      fun label hl c hc => isLabelChar_eq_true_iff.mp ((hlabel hl).2 c hc)⟩
  · rintro ⟨mailbox, domain, h⟩
    refine ⟨mailbox, domain, h.split, mem_run_iff.mpr ⟨h.mailboxNonempty, fun c hc => ?_⟩,
      mem_domainForm_iff.mpr fun label hl => mem_run_iff.mpr ⟨h.labelNonempty label hl,
        fun c hc => ?_⟩⟩
    · exact isMailboxChar_eq_true_iff.mpr (h.mailboxChars c hc)
    · exact isLabelChar_eq_true_iff.mpr (h.labelChars label hl c hc)

/-- An address has no second at sign, so that it does not matter at which one it is cut. -/
theorem isEmail_append_iff : isEmail (mailbox ++ '@' :: domain) = true ↔
    mailbox ∈ run isMailboxChar ∧ domain ∈ domainForm := by
  constructor
  · intro h
    obtain ⟨mailbox', domain', he, hm, hd⟩ := isEmail_eq_true_iff.mp h
    have hat' : '@' ∉ mailbox' := not_mem_of_mem_run hm (by decide)
    have hat : '@' ∉ mailbox := by
      have hcount := congrArg (List.count '@') he
      rw [List.count_append, List.count_append, List.count_cons_self, List.count_cons_self,
        List.count_eq_zero.mpr hat',
        List.count_eq_zero.mpr (at_not_mem_of_mem_domainForm hd)] at hcount
      exact List.count_eq_zero.mp (by omega)
    obtain ⟨rfl, rfl⟩ := append_cons_inj hat hat' he
    exact ⟨hm, hd⟩
  · rintro ⟨hm, hd⟩
    exact isEmail_eq_true_iff.mpr ⟨mailbox, domain, rfl, hm, hd⟩

theorem ascii_of_isMailboxChar (h : isMailboxChar c = true) :
    c.toNat < 128 ∧ Text.isBlank c = false := by
  have hc : c.toNat < 128 := by
    obtain h | h := isMailboxChar_eq_true_iff.mp h
    · exact Text.toNat_lt_of_isAlphanum h
    · have hall : ".!#$%&'*+/=?^_`\x7b|\x7d~-".toList.all (·.toNat < 128) = true := by decide
      exact of_decide_eq_true (List.all_eq_true.mp hall c h)
  exact ⟨hc, Text.forall_ascii (P := fun c => isMailboxChar c = true → Text.isBlank c = false)
    (by decide +kernel) hc h⟩

theorem isMailboxChar_of_isLabelChar (h : isLabelChar c = true) : isMailboxChar c = true := by
  obtain h | rfl := isLabelChar_eq_true_iff.mp h
  · exact isMailboxChar_eq_true_iff.mpr (.inl h)
  · decide

/-- No character of an address is blank or outside ASCII. -/
theorem ascii_of_isEmail (h : isEmail text = true) (hc : c ∈ text) :
    c.toNat < 128 ∧ Text.isBlank c = false := by
  obtain ⟨mailbox, domain, rfl, hm, hd⟩ := isEmail_eq_true_iff.mp h
  obtain hc | hc := List.mem_append.mp hc
  · exact ascii_of_isMailboxChar ((mem_run_iff.mp hm).2 c hc)
  obtain rfl | hc := List.mem_cons.mp hc
  · decide
  obtain rfl | hc := isLabelChar_of_mem_domainForm hd hc
  · decide
  · exact ascii_of_isMailboxChar (isMailboxChar_of_isLabelChar hc)

end Grammar

/-! ## Validators of mail addresses -/

namespace Validator

open Grammar

/-- Exactly mail addresses are accepted, whatever is said of the other texts: what the regular
expression matches, which is what has one at sign and the right characters on both sides of it. -/
theorem check_email_accepts (message : String) :
    (∀ s, (email message).check (.string s) = .ok () ↔ s.toList ∈ addressForm) ∧
    (∀ s, (email message).check (.string s) = .ok () ↔
      ∃ mailbox domain, IsAddress s.toList mailbox domain) ∧
    (∀ s mailbox domain, s.toList = mailbox ++ '@' :: domain →
      (domain.head? = some '.' ∨ domain.getLast? = some '.' ∨ ['.', '.'] <:+: domain) →
        (email message).check (.string s) ≠ .ok ()) ∧
    (∀ s, (∃ c ∈ s.toList, Text.isBlank c = true ∨ 128 ≤ c.toNat) →
      (email message).check (.string s) ≠ .ok ()) ∧
    (∀ value e, (email message).check value = .error e → e = .ofMessage message "invalid") ∧
    (∀ value, builtInEmail.check value = (email defaultEmailMessage).check value) ∧
    (∀ value message', (email message).check value = .ok () ↔
      (email message').check value = .ok ()) ∧
    ∀ value, (∀ s, value ≠ .string s) → (email message).check value = .ok () := by
  have hcheck (message : String) (value : Value) : (email message).check value =
      onText value fun text => demand (isEmail text) message "invalid" := rfl
  have hok (message s : String) :
      (email message).check (.string s) = .ok () ↔ isEmail s.toList = true := by
    rw [hcheck, onText_string, demand_eq_ok_iff]
  refine ⟨fun s => (hok _ s).trans isEmail_iff_mem_addressForm,
    fun s => (hok _ s).trans isEmail_iff_isAddress, fun s mailbox domain hs h => ?_,
    fun s hs => ?_, fun value e he => ?_, fun value => rfl, fun value message' => ?_,
    fun value hv => (hcheck _ value).trans (onText_of_not_string hv _)⟩
  · rw [ne_eq, hok, hs, isEmail_append_iff]
    exact fun hd => not_mem_domainForm h hd.2
  · obtain ⟨c, hc, h⟩ := hs
    rw [ne_eq, hok]
    intro hs
    obtain ⟨hascii, hblank⟩ := ascii_of_isEmail hs hc
    rw [hblank] at h
    exact h.elim Bool.false_ne_true (Nat.not_le.mpr hascii)
  · obtain ⟨-, -, -, h⟩ := onText_demand_eq_error_iff.mp he
    exact h
  · cases value with
    | string s => rw [hok, hok]
    | _ => exact iff_of_true rfl rfl

example : builtInEmail.accepts (.string "a.@b-c.d") = true ∧
    builtInEmail.accepts (.string "a@b..c") = false := by
  decide

end Validator

end FieldMap
