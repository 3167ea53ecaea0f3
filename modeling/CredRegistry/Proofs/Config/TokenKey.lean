import CredRegistry.Config.Load
import CredRegistry.Proofs.Host.Environment
import Mathlib.Data.List.DropRight

/-!
# Where the key for tokens comes from

The first source that is given decides (`Settings.Decides`), and what it brings depends on nothing
but what stands there (`Host.Brings`): a key, a fault of its own, or no key if it names a variable
that is not set. `Settings.brings_key?` says so of the settings. Both relations leave no choice, so
a key that has been asked for is never passed over for a later source, nor for none.
-/

namespace CredRegistry

open CredRegistry.Text

/-! ## Trimming -/

namespace Text

theorem trimRight_eq_rdropWhile (cs : List Char) : trimRight cs = cs.rdropWhile isBlank := rfl

theorem dropWhile_trimRight {cs : List Char} (h : cs.dropWhile isBlank = cs) :
    (trimRight cs).dropWhile isBlank = trimRight cs := by
  rw [trimRight_eq_rdropWhile]
  rw [List.dropWhile_eq_self_iff] at h ⊢
  intro hlen
  have hfront := List.rdropWhile_prefix isBlank cs
  rw [hfront.getElem hlen]
  exact h (hlen.trans_le hfront.length_le)

/-- Nothing is left to trim. -/
theorem trim_trim (s : String) : trim (trim s) = trim s := by
  have hfront : (s.toList.dropWhile isBlank).dropWhile isBlank = s.toList.dropWhile isBlank :=
    List.dropWhile_idempotent isBlank s.toList
  unfold trim
  rw [String.toList_ofList, dropWhile_trimRight hfront]
  exact congrArg String.ofList (List.rdropWhile_idempotent isBlank _)

theorem trim_of_blank {s : String} (h : isBlankText s = true) : trim s = "" := by
  rw [isBlankText, List.all_eq_true] at h
  rw [trim, List.dropWhile_eq_nil_iff.mpr h]
  rfl

end Text

/-! ## What a source brings -/

/-- A place where a secret can stand. -/
inductive KeySource where
  | direct (text : String)
  | file (path : String)
  | «variable» (name : String)
deriving Repr, DecidableEq

namespace Host

/-- A source and the text that stands there. Files and variables hold it encoded. -/
inductive Holds (h : Host) : KeySource → String → Prop where
  | direct (text : String) : Holds h (.direct text) text
  | file {path way text : String} (hway : h.Expands path way)
      (hread : h.files.read way = .ok (utf8 text)) : Holds h (.file path) text
  | «variable» {name text : String} (hset : h.variables.lookup name = some (utf8 text)) :
      Holds h (.variable name) text

/-- A source and what comes of asking it for a key: the key that the text there spells, blanks
around it aside, or what is wrong. Only a variable that is not set brings none. -/
inductive Brings (h : Host) : KeySource → Except ConfigError (Option TokenKey) → Prop where
  | key {source : KeySource} {text : String} {key : TokenKey} (htext : Holds h source text)
      (hbytes : Hex.decode (trim text) = .ok key.bytes.toList) : Brings h source (.ok (some key))
  | notHex {source : KeySource} {text : String} {fault : Hex.Fault} (htext : Holds h source text)
      (hfault : Hex.decode (trim text) = .error fault) :
      Brings h source (.error (.tokenKey (.invalidKey (.notHex fault))))
  | wrongSize {source : KeySource} {text : String} {bs : List UInt8} (htext : Holds h source text)
      (hbytes : Hex.decode (trim text) = .ok bs) (hsize : bs.length ≠ 32) :
      Brings h source (.error (.tokenKey (.invalidKey (.wrongSize bs.length))))
  | unreadable {path way : String} {e : FileError} (hway : h.Expands path way)
      (hread : h.files.read way = .error e) :
      Brings h (.file path) (.error (.tokenKey (.unreadableFile way e)))
  | fileNotText {path way : String} {bs : List UInt8} (hway : h.Expands path way)
      (hread : h.files.read way = .ok bs) (hbytes : ∀ text, bs ≠ utf8 text) :
      Brings h (.file path) (.error (.tokenKey (.unreadableFile way .notText)))
  | variableNotText {name : String} {bs : List UInt8} (hset : h.variables.lookup name = some bs)
      (hbytes : ∀ text, bs ≠ utf8 text) :
      Brings h (.variable name) (.error (.tokenKey (.variableNotText name)))
  | unset {name : String} (hunset : h.variables.lookup name = none) :
      Brings h (.variable name) (.ok none)

variable {h : Host}

/-- The secret of one source. -/
def secretOf (h : Host) : KeySource → Except SecretError String
  | .direct text => .ok text
  | .file path => h.secretOfFile path
  | .variable name => h.secretOfVariable name

/-- A text that stands somewhere is the secret, blanks around it aside. -/
theorem Holds.secret {source : KeySource} {text : String} (hholds : h.Holds source text) :
    ∃ secret, h.secretOf source = .ok secret ∧ trim secret = trim text := by
  cases hholds with
  | direct => exact ⟨text, rfl, rfl⟩
  | file hway hread =>
      refine ⟨trim text, ?_, trim_trim text⟩
      rw [expands_iff] at hway
      simp only [secretOf, secretOfFile, ← hway, FileSystem.readText_of_text hread]
  | «variable» hset =>
      refine ⟨trim text, ?_, trim_trim text⟩
      simp only [secretOf, secretOfVariable, variableText_eq_ok.mpr hset]

/-- At a source there is a text, or what is wrong with it is known. -/
theorem holds_or_brings (h : Host) (source : KeySource) :
    (∃ text, h.Holds source text) ∨ ∃ result, h.Brings source result := by
  cases source with
  | direct text => exact .inl ⟨text, .direct text⟩
  | file path =>
      have hway : h.Expands path (h.expandHome path) := expands_iff.mpr rfl
      cases hread : h.files.read (h.expandHome path) with
      | error e => exact .inr ⟨_, .unreadable hway hread⟩
      | ok bs =>
          by_cases htext : ∃ text, bs = utf8 text
          · obtain ⟨text, rfl⟩ := htext
            exact .inl ⟨text, .file hway hread⟩
          · exact .inr ⟨_, .fileNotText hway hread (not_exists.mp htext)⟩
  | «variable» name =>
      cases hset : h.variables.lookup name with
      | none => exact .inr ⟨_, .unset hset⟩
      | some bs =>
          by_cases htext : ∃ text, bs = utf8 text
          · obtain ⟨text, rfl⟩ := htext
            exact .inl ⟨text, .variable hset⟩
          · exact .inr ⟨_, .variableNotText hset (not_exists.mp htext)⟩

/-- A file holds the text that stands at its way from the root, whatever way leads there: the path
from the root, or the one that begins with the home directory. -/
theorem holds_of_stands {way : List String} {text : String}
    (hstands : h.files.Stands way (.file (utf8 text))) :
    h.Holds (.file (FileSystem.pathOf way)) text ∧
      ∀ home rest, way = home ++ rest → h.home? = some (FileSystem.pathOf home) →
        h.Holds (.file ("~" ++ FileSystem.pathOf rest)) text := by
  refine ⟨.file (expands_pathOf hstands.below) hstands.read, ?_⟩
  rintro home rest rfl hhome
  exact .file (expands_home hhome rest) hstands.read

/-- Every source brings something. -/
theorem exists_brings (h : Host) (source : KeySource) : ∃ result, h.Brings source result := by
  rcases h.holds_or_brings source with ⟨text, htext⟩ | hbrings
  · cases hdecode : Hex.decode (trim text) with
    | error fault => exact ⟨_, .notHex htext hdecode⟩
    | ok bs =>
        by_cases hsize : bs.length = 32
        · let key : TokenKey := ⟨⟨bs.toArray, by simp [hsize]⟩⟩
          have hbytes : Hex.decode (trim text) = .ok key.bytes.toList := hdecode
          exact ⟨_, .key htext hbytes⟩
        · exact ⟨_, .wrongSize htext hdecode hsize⟩
  · exact hbrings

end Host

namespace Settings

variable {h : Host} {s : Settings} {source : KeySource}

/-! ## The source that decides -/

/-- Nothing is given where nothing stands, or nothing but the empty text. -/
def NotGiven (source : Option String) : Prop := source = none ∨ source = some ""

/-- The first source of the key that is given. -/
inductive Decides (s : Settings) : KeySource → Prop where
  | direct {text : String} (hgiven : s.tokenKey = some text) (hne : text ≠ "") :
      Decides s (.direct text)
  | file {path : String} (hdirect : NotGiven s.tokenKey) (hgiven : s.tokenKeyFile = some path)
      (hne : path ≠ "") : Decides s (.file path)
  | «variable» {name : String} (hdirect : NotGiven s.tokenKey) (hfile : NotGiven s.tokenKeyFile)
      (hgiven : s.tokenKeyVariable = some name) (hne : name ≠ "") : Decides s (.variable name)

theorem given_of_notGiven {text? : Option String} (hno : NotGiven text?) :
    Host.given text? = none := by
  rcases hno with rfl | rfl <;> rfl

theorem given_of_ne {text : String} (hne : text ≠ "") : Host.given (some text) = some text := by
  simp [Host.given, hne]

theorem notGiven_or (text? : Option String) :
    NotGiven text? ∨ ∃ text, text? = some text ∧ text ≠ "" := by
  cases text? with
  | none => exact .inl (.inl rfl)
  | some text =>
      by_cases hne : text = ""
      · exact .inl (.inr (congrArg some hne))
      · exact .inr ⟨text, rfl, hne⟩

/-- A source decides unless nothing is given. -/
theorem decides_or (s : Settings) :
    (∃ source, s.Decides source) ∨
      NotGiven s.tokenKey ∧ NotGiven s.tokenKeyFile ∧ NotGiven s.tokenKeyVariable := by
  rcases notGiven_or s.tokenKey with hdirect | ⟨text, hgiven, hne⟩
  · rcases notGiven_or s.tokenKeyFile with hfile | ⟨path, hgiven, hne⟩
    · rcases notGiven_or s.tokenKeyVariable with hvariable | ⟨name, hgiven, hne⟩
      · exact .inr ⟨hdirect, hfile, hvariable⟩
      · exact .inl ⟨_, .variable hdirect hfile hgiven hne⟩
    · exact .inl ⟨_, .file hdirect hgiven hne⟩
  · exact .inl ⟨_, .direct hgiven hne⟩

theorem Decides.resolveSecret (hdecides : s.Decides source) :
    h.resolveSecret s.keySources = h.secretOf source := by
  cases hdecides with
  | direct hgiven hne =>
      simp only [Host.resolveSecret, keySources, hgiven, given_of_ne hne, Host.secretOf]
  | file hdirect hgiven hne =>
      simp only [Host.resolveSecret, keySources, given_of_notGiven hdirect, hgiven,
        given_of_ne hne, Host.secretOf]
  | «variable» hdirect hfile hgiven hne =>
      simp only [Host.resolveSecret, keySources, given_of_notGiven hdirect,
        given_of_notGiven hfile, hgiven, given_of_ne hne, Host.secretOf]

/-! ## The key -/

theorem key?_of_secret {secret : String} (hsecret : h.resolveSecret s.keySources = .ok secret) :
    s.key? h = (keyOfText secret).map some := by
  simp only [key?, keyText?, Host.resolveSecret?, hsecret]
  rfl

/-- A fault of a source is passed on. -/
theorem key?_of_fault {e : SecretError} (hsecret : h.resolveSecret s.keySources = .error e)
    (hno : e ≠ .noSource) (hset : ∀ name, e ≠ .variableUnset name) :
    s.key? h = .error (.tokenKey e) := by
  have hsecret? : h.resolveSecret? s.keySources = .error e := by
    unfold Host.resolveSecret?
    rw [hsecret]
    cases e with
    | noSource => exact absurd rfl hno
    | variableUnset name => exact absurd rfl (hset name)
    | _ => rfl
  simp only [key?, keyText?, hsecret?]
  rfl

/-- Two faults count as no secret: no source, and a variable that is not set. -/
theorem key?_of_absent (hsecret : h.resolveSecret s.keySources = .error .noSource ∨
    ∃ name, h.resolveSecret s.keySources = .error (.variableUnset name)) : s.key? h = .ok none := by
  have hsecret? : h.resolveSecret? s.keySources = .ok none := by
    rcases hsecret with hsecret | ⟨name, hsecret⟩ <;> rw [Host.resolveSecret?, hsecret]
  simp only [key?, keyText?, hsecret?]
  rfl

theorem keyOfText_of_bytes {secret : String} {key : TokenKey}
    (hbytes : Hex.decode (trim secret) = .ok key.bytes.toList) : keyOfText secret = .ok key := by
  have hsize : key.bytes.toList.length = 32 := Vector.length_toList
  simp only [keyOfText, TokenKey.ofText, hbytes, hsize, dif_pos]
  rfl

theorem keyOfText_of_wrongSize {secret : String} {bs : List UInt8}
    (hbytes : Hex.decode (trim secret) = .ok bs) (hsize : bs.length ≠ 32) :
    keyOfText secret = .error (.tokenKey (.invalidKey (.wrongSize bs.length))) := by
  simp only [keyOfText, TokenKey.ofText, hbytes, dif_neg hsize]

theorem keyOfText_of_notHex {secret : String} {fault : Hex.Fault}
    (hfault : Hex.decode (trim secret) = .error fault) :
    keyOfText secret = .error (.tokenKey (.invalidKey (.notHex fault))) := by
  simp only [keyOfText, TokenKey.ofText, hfault]

/-- Where a text stands, the key is the one that it spells, or it is said why it spells none. -/
theorem key?_of_holds {text : String} (hdecides : s.Decides source) (htext : h.Holds source text) :
    s.key? h = (keyOfText text).map some := by
  obtain ⟨secret, hsource, htrim⟩ := htext.secret
  have hkey : keyOfText secret = keyOfText text := by
    simp only [keyOfText, TokenKey.ofText, htrim]
  rw [key?_of_secret (hdecides.resolveSecret.trans hsource), hkey]

theorem key?_of_brings {result : Except ConfigError (Option TokenKey)}
    (hdecides : s.Decides source) (hbrings : h.Brings source result) : s.key? h = result := by
  have hsecret : h.resolveSecret s.keySources = h.secretOf source := hdecides.resolveSecret
  cases hbrings with
  | key htext hbytes =>
      rw [key?_of_holds hdecides htext, keyOfText_of_bytes hbytes]
      rfl
  | notHex htext hfault =>
      rw [key?_of_holds hdecides htext, keyOfText_of_notHex hfault]
      rfl
  | wrongSize htext hbytes hsize =>
      rw [key?_of_holds hdecides htext, keyOfText_of_wrongSize hbytes hsize]
      rfl
  | unreadable hway hread =>
      rw [Host.expands_iff] at hway
      simp only [Host.secretOf, Host.secretOfFile, ← hway,
        FileSystem.readText_of_error hread] at hsecret
      exact key?_of_fault hsecret (by simp) (by simp)
  | fileNotText hway hread hbytes =>
      rw [Host.expands_iff] at hway
      simp only [Host.secretOf, Host.secretOfFile, ← hway,
        FileSystem.readText_of_notText hread hbytes] at hsecret
      exact key?_of_fault hsecret (by simp) (by simp)
  | variableNotText hset hbytes =>
      simp only [Host.secretOf, Host.secretOfVariable,
        Host.variableText_of_notText hset hbytes] at hsecret
      exact key?_of_fault hsecret (by simp) (by simp)
  | unset hunset =>
      simp only [Host.secretOf, Host.secretOfVariable,
        Host.variableText_of_unset hunset] at hsecret
      exact key?_of_absent (.inr ⟨_, hsecret⟩)

theorem key?_iff {result : Except ConfigError (Option TokenKey)} (hdecides : s.Decides source) :
    s.key? h = result ↔ h.Brings source result := by
  constructor
  · rintro rfl
    obtain ⟨result, hbrings⟩ := h.exists_brings source
    rwa [key?_of_brings hdecides hbrings]
  · exact key?_of_brings hdecides

theorem key?_of_nothing (hdirect : NotGiven s.tokenKey) (hfile : NotGiven s.tokenKeyFile)
    (hvariable : NotGiven s.tokenKeyVariable) : s.key? h = .ok none := by
  have hsecret : h.resolveSecret s.keySources = .error .noSource := by
    simp only [Host.resolveSecret, keySources, given_of_notGiven hdirect,
      given_of_notGiven hfile, given_of_notGiven hvariable]
  exact key?_of_absent (.inl hsecret)

theorem key?_eq_none_iff : s.key? h = .ok none ↔
    NotGiven s.tokenKey ∧ NotGiven s.tokenKeyFile ∧
      (NotGiven s.tokenKeyVariable ∨
        ∃ name, s.tokenKeyVariable = some name ∧ h.variables.lookup name = none) := by
  constructor
  · intro hnone
    rcases s.decides_or with ⟨source, hdecides⟩ | ⟨hdirect, hfile, hvariable⟩
    · -- of all that a source brings, only a variable that is not set is no key and no error
      cases (key?_iff hdecides).mp hnone with
      | unset hunset =>
          cases hdecides with
          | «variable» hdirect hfile hgiven hne =>
              exact ⟨hdirect, hfile, .inr ⟨_, hgiven, hunset⟩⟩
    · exact ⟨hdirect, hfile, .inl hvariable⟩
  · rintro ⟨hdirect, hfile, hvariable | ⟨name, hgiven, hunset⟩⟩
    · exact key?_of_nothing hdirect hfile hvariable
    · by_cases hne : name = ""
      · exact key?_of_nothing hdirect hfile (.inr (hne ▸ hgiven))
      · exact key?_of_brings (.variable hdirect hfile hgiven hne) (.unset hunset)

theorem key?_eq_some_iff {key : TokenKey} (hdecides : s.Decides source) :
    s.key? h = .ok (some key) ↔
      ∃ text, h.Holds source text ∧ Hex.decode (trim text) = .ok key.bytes.toList := by
  rw [key?_iff hdecides]
  constructor
  · intro hbrings
    cases hbrings with
    | key htext hbytes => exact ⟨_, htext, hbytes⟩
  · rintro ⟨text, htext, hbytes⟩
    exact .key htext hbytes

theorem key?_of_blank {text : String} (hdecides : s.Decides source) (htext : h.Holds source text)
    (hblank : isBlankText text = true) :
    s.key? h = .error (.tokenKey (.invalidKey (.wrongSize 0))) := by
  have hbytes : Hex.decode (trim text) = .ok [] := by
    rw [trim_of_blank hblank]
    rfl
  exact key?_of_brings hdecides (.wrongSize htext hbytes (by decide))

theorem keyText?_eq_none_of (hnone : s.key? h = .ok none) : s.keyText? h = .ok none := by
  cases hsecret : s.keyText? h with
  | error e =>
      simp only [key?, hsecret, bind, Except.bind] at hnone
      cases hnone
  | ok secret? =>
      cases secret? with
      | none => rfl
      | some secret =>
          simp only [key?, hsecret, bind, Except.bind] at hnone
          cases hkey : keyOfText secret <;> rw [hkey] at hnone <;> cases hnone

section

variable {m : Type → Type} [Monad m] [Log.MonadLog m]

/-- That there is no key is reported as a warning. -/
theorem findKey_of_none (hnone : s.key? h = .ok none) :
    ∃ message, (s.findKey h : m _)
      = Log.note .warn loadTarget message >>= fun _ => pure (.ok none) := by
  refine ⟨"No token key configured; tokens will be stored in plaintext", ?_⟩
  simp only [findKey, keyText?_eq_none_of hnone, hnone]

theorem findKey_eq (h : Host) (s : Settings) :
    (s.findKey h : m _) = pure (s.key? h) ∨
      ∃ level message, (s.findKey h : m _)
        = Log.note level loadTarget message >>= fun _ => pure (s.key? h) := by
  unfold findKey
  split
  · exact .inr ⟨_, _, rfl⟩
  · exact .inr ⟨_, _, rfl⟩
  · exact .inl rfl

end

/-! ## The key and its source -/

/-- Are two hosts the same where a source stands? -/
def SameAt : KeySource → Host → Host → Prop
  | .direct _, _, _ => True
  | .file path, h, h' =>
      h.expandHome path = h'.expandHome path ∧
        h.files.read (h.expandHome path) = h'.files.read (h.expandHome path)
  | .variable name, h, h' => h.variables.lookup name = h'.variables.lookup name

theorem secretOf_of_sameAt {h' : Host} (hsame : SameAt source h h') :
    h'.secretOf source = h.secretOf source := by
  cases source with
  | direct text => rfl
  | file path =>
      obtain ⟨hway, hread⟩ := hsame
      simp only [Host.secretOf, Host.secretOfFile, ← hway, FileSystem.readText, hread]
  | «variable» name =>
      have hset : h.variables.lookup name = h'.variables.lookup name := hsame
      simp only [Host.secretOf, Host.secretOfVariable, Host.variableText, hset]

/-- There is no key just if none of the sources is given, or only a variable that is not set.
Otherwise the first source that is given decides, by what stands there and nothing else: the key is
the one that the trimmed text spells, and everything but a key of the right size is an error. What
stands in a file is read by its path from the root, and from the home directory behind a tilde. That
there is no key is not passed over in silence. -/
theorem key_of_first_source (s : Settings) (h : Host) :
    (s.key? h = .ok none ↔
      NotGiven s.tokenKey ∧ NotGiven s.tokenKeyFile ∧
        (NotGiven s.tokenKeyVariable ∨
          ∃ name, s.tokenKeyVariable = some name ∧ h.variables.lookup name = none)) ∧
      (s.key? h ≠ .ok none → ∃ source, s.Decides source) ∧
      (∀ source, s.Decides source →
        (∀ result, s.key? h = result ↔ h.Brings source result) ∧
        (∀ key, s.key? h = .ok (some key) ↔
          ∃ text, h.Holds source text ∧ Hex.decode (trim text) = .ok key.bytes.toList) ∧
        (∀ text, h.Holds source text → isBlankText text = true →
          s.key? h = .error (.tokenKey (.invalidKey (.wrongSize 0)))) ∧
        ∀ (s' : Settings) h', s'.Decides source → SameAt source h h' → s'.key? h' = s.key? h) ∧
      (∀ way text, h.files.Stands way (.file (utf8 text)) →
        h.Holds (.file (FileSystem.pathOf way)) text ∧
          ∀ home rest, way = home ++ rest → h.home? = some (FileSystem.pathOf home) →
            h.Holds (.file ("~" ++ FileSystem.pathOf rest)) text) ∧
      ∀ (m : Type → Type) [Monad m] [Log.MonadLog m],
        ((s.findKey h : m _) = pure (s.key? h) ∨
          ∃ level message, (s.findKey h : m _)
            = Log.note level loadTarget message >>= fun _ => pure (s.key? h)) ∧
        (s.key? h = .ok none → ∃ message, (s.findKey h : m _)
          = Log.note .warn loadTarget message >>= fun _ => pure (.ok none)) := by
  refine ⟨key?_eq_none_iff, ?_, fun source hdecides => ⟨?_, ?_, ?_, ?_⟩, ?_, ?_⟩
  · intro hkey
    rcases s.decides_or with hdecides | ⟨hdirect, hfile, hvariable⟩
    · exact hdecides
    · exact absurd (key?_of_nothing hdirect hfile hvariable) hkey
  · exact fun result => key?_iff hdecides
  · exact fun key => key?_eq_some_iff hdecides
  · exact fun text htext hblank => key?_of_blank hdecides htext hblank
  · intro s' h' hdecides' hsame
    have hsecret : h'.resolveSecret s'.keySources = h.resolveSecret s.keySources := by
      rw [hdecides'.resolveSecret, hdecides.resolveSecret, secretOf_of_sameAt hsame]
    simp only [key?, keyText?, Host.resolveSecret?, hsecret]
  · exact fun way text hstands => Host.holds_of_stands hstands
  · exact fun m _ _ => ⟨findKey_eq h s, findKey_of_none⟩

/-! ## Keys at paths from the root -/

/-- The key of 32 bytes of a kind, in hexadecimal digits of both cases and with a line break. -/
def keyLine (digits : String) : String := String.join (List.replicate 32 digits) ++ "\n"

/-- A key is mounted below the root, another one is kept in the home directory, and a variable
spells none. The program works elsewhere. -/
def keyHost : Host where
  «variables» := [("HOME", utf8 "/home/ann"), (CredRegistry.tokenKeyVariable, utf8 "no key")]
  files :=
    { nodes := [ (["run", "secrets", "token-key"], .file (utf8 (keyLine "5A"))),
        (["home", "ann", ".keys", "token"], .file (utf8 (keyLine "a5"))) ]
      workDirectory := ["srv", "registry"] }
  accountHome := none

/-- Both files are found by their paths from the root, the second one by way of the tilde too, and
the variable is not asked. -/
theorem keys_from_root :
    let settings (path : String) : Settings := { standard with tokenKeyFile := some path }
    (settings "/run/secrets/token-key").key? keyHost = .ok (some ⟨Vector.replicate 32 0x5a⟩) ∧
      (settings "/home/ann/.keys/token").key? keyHost = .ok (some ⟨Vector.replicate 32 0xa5⟩) ∧
      (settings "~/.keys/token").key? keyHost = .ok (some ⟨Vector.replicate 32 0xa5⟩) := by
  intro settings
  obtain ⟨-, -, -, hfile, -⟩ := key_of_first_source standard keyHost
  have hkey (path : String) (hne : path ≠ "") {text : String} {key : TokenKey}
      (hholds : keyHost.Holds (.file path) text)
      (hdecode : Hex.decode (trim text) = .ok key.bytes.toList) :
      (settings path).key? keyHost = .ok (some key) := by
    obtain ⟨-, -, hdecided, -⟩ := key_of_first_source (settings path) keyHost
    have hdecides : (settings path).Decides (.file path) := .file (.inl rfl) rfl hne
    exact ((hdecided _ hdecides).2.1 key).mpr ⟨text, hholds, hdecode⟩
  have hmounted : keyHost.files.Stands ["run", "secrets", "token-key"]
      (.file (utf8 (keyLine "5A"))) := by decide +kernel
  have hkept : keyHost.files.Stands ["home", "ann", ".keys", "token"]
      (.file (utf8 (keyLine "a5"))) := by decide +kernel
  have htilde : keyHost.Holds (.file "~/.keys/token") (keyLine "a5") :=
    (hfile _ _ hkept).2 ["home", "ann"] [".keys", "token"] rfl (by decide +kernel)
  exact ⟨hkey _ (by decide) (hfile _ _ hmounted).1 (by rfl),
    hkey _ (by decide) (hfile _ _ hkept).1 (by rfl), hkey _ (by decide) htilde (by rfl)⟩

end Settings

end CredRegistry
