import UInventario.Auth.SessionAdvance

/-!
# What a session is worth after a logout, a retirement and a password reset

`sessions_safe` is about every run of the requests of `Auth.Requests`, in every interleaving.

* A session has one token, of two refreshes with one token at most one goes through, a user has at
  most one reset token that can be used, and it is used once.
* A session that has been logged out, that was there when the password was reset, or when its user
  was retired, never authenticates a request again.

What a turn does is said in `Auth.SessionAdvance` (`turn_advance`). A refresh compares the token in
the statement that replaces it (`rotated_burnt`); a completion leaves its token used.

A logout ends only the session it is a request of; and a login that has verified a password inserts
its session even after a reset. `sessions_remain` has both.
-/

namespace UInventario.Auth

open Outcome Table List

variable {env : AuthEnv} {s s' : AuthStore}

/-! ### Turns -/

def Process.At (env : AuthEnv) : Process → AuthStore → Prop
  | .verified identity, s =>
    ∃ u, s.users.find? identity.userId = some u ∧ u.tenantId = identity.tenantId
  | .admitted principal _ _, s => ∃ m, s.sessions.find? principal.sessionId = some m
  | .done (.refreshed currentToken _ _), s => Burnt env s currentToken
  | .done (.passwordReset token _), s => Spent env s token
  | _, _ => True

def Process.Apart : Process → Process → Prop
  | .done (.refreshed currentToken _ _), .done (.refreshed currentToken' _ _) =>
    currentToken ≠ currentToken'
  | .done (.passwordReset token _), .done (.passwordReset token' _) => token ≠ token'
  | _, _ => True

variable {p : Process}

theorem Process.At.advance (hdraws : Function.Injective env.randomBytes)
    (hhash : Function.Injective env.hashToken) (hat : p.At env s) (h : Advance env s s') :
    p.At env s' := by
  match p with
  | .verified identity =>
    obtain ⟨u, hu, htenant⟩ := hat
    obtain ⟨u', hu', hsame, -⟩ := h.users identity.userId u hu
    exact ⟨u', hu', hsame.trans htenant⟩
  | .admitted principal token action =>
    obtain ⟨m, hm⟩ := hat
    obtain ⟨m', hm', -⟩ := h.sessions.kept principal.sessionId m hm
    exact ⟨m', hm'⟩
  | .done (.refreshed currentToken token expiresAt) => exact Burnt.advance hdraws hhash hat h
  | .done (.passwordReset token userId) => exact Spent.advance hat h
  | .asked request => trivial
  | .done (.loggedIn _ _ _) | .done (.loggedOut _) | .done (.current _) | .done .roleCreated
  | .done .userCreated | .done (.userUpdated _) | .done (.userRetired _) | .done .resetAccepted
  | .done .waited | .done (.refused _) => trivial

/-- **A refresh** is refused, or has replaced the token it came with. -/
theorem refresh_cases (s : AuthStore) (principal : SessionIdentity) (currentToken : Token) :
    (∃ failure, refresh env s principal currentToken =
      ({ s with drawn := s.drawn + 1 }, .done (.refused failure))) ∨
    ∃ m expiresAt, s.sessions.find? principal.sessionId = some m ∧
      m.tokenHash = env.hashToken currentToken ∧
      (∀ m' ∈ s.sessions.rows, m'.id ≠ principal.sessionId →
        m'.tokenHash ≠ env.hashToken (env.randomBytes s.drawn)) ∧
      refresh env s principal currentToken = ({ s with
            drawn := s.drawn + 1
            sessions := s.sessions.update principal.sessionId
              (Session.rotate (env.hashToken (env.randomBytes s.drawn)) expiresAt) },
          .done (.refreshed currentToken (env.randomBytes s.drawn) expiresAt)) := by
  cases h : rotateSession { s with drawn := s.drawn + 1 } principal.sessionId
    (env.hashToken currentToken) (env.hashToken (env.randomBytes s.drawn))
    (s.now + env.sessionTtl) s.now with
  | error failure =>
    refine .inl ⟨failure, ?_⟩
    simp only [refresh, drawToken, h]
  | ok r =>
    rcases rotateSession_eq_ok h with rfl | ⟨m, hm, hcurrent, hunique, rfl⟩
    · refine .inl ⟨.INVALID_SESSION, ?_⟩
      simp only [refresh, drawToken, h]
    · refine .inr ⟨m, s.now + env.sessionTtl, hm, hcurrent, hunique, ?_⟩
      simp only [refresh, drawToken, h]

/-- **A completion of a reset** is refused, or has used its token. -/
theorem completeReset_cases (s : AuthStore) (token : Token) (password : Text) :
    (completeReset env s token password =
      ({ s with drawn := s.drawn + 1 }, .done (.refused .INVALID_PASSWORD_RESET_TOKEN))) ∨
    ∃ userId passwordHash,
      (∃ r ∈ s.resetTokens.rows, r.tokenHash = env.hashToken token ∧ r.usedAt = none) ∧
      (∃ r ∈ (useTokens s userId s.now).rows, r.tokenHash = env.hashToken token ∧ r.usedAt ≠ none) ∧
      completeReset env s token password = ({ s with
            drawn := s.drawn + 1
            users := s.users.update userId (User.withPassword passwordHash)
            resetTokens := useTokens s userId s.now
            sessions := s.sessions.updateWhere (fun m ↦ m.userId = userId ∧ m.revokedAt = none)
              (Session.revoke s.now) },
          .done (.passwordReset token userId)) := by
  cases h : consumeToken { s with drawn := s.drawn + 1 } (env.hashToken token)
    (env.hash s.drawn password) s.now with
  | mk s' result =>
    cases result with
    | none =>
      refine .inl ?_
      have hsame : s' = { s with drawn := s.drawn + 1 } := by
        rw [consumeToken] at h
        split at h
        · exact (Prod.mk.inj h).1.symm
        · cases h
      simp only [completeReset, h, hsame]
    | some userId =>
      obtain ⟨hfound, rfl, hused⟩ := consumeToken_some h
      refine .inr ⟨userId, env.hash s.drawn password, hfound, hused, ?_⟩
      simp only [completeReset, h]
      rfl

theorem drawn_advance (h : Advance env { s with drawn := s.drawn + 1 } s') : Advance env s s' := by
  refine ⟨(Nat.le_succ _).trans h.drawn, h.users, ⟨h.sessions.kept, fun m hm ↦ ?_,
    h.sessions.owners, h.sessions.distinct⟩, ⟨h.resets.spent, fun hs ↦ h.resets.sound ⟨hs.1, hs.2⟩⟩⟩
  rcases h.sessions.hashes m hm with hold | ⟨k, hk, hnew⟩
  · exact .inl hold
  · exact .inr ⟨k, (Nat.le_succ _).trans hk, hnew⟩

variable {r : Except AuthFailure AuthStore} {answer : Answer} {password : Text}

theorem commit_advance (h : ∀ s', r = .ok s' → Advance env s s') :
    Advance env s (commit s answer r).1 := by
  cases r with
  | ok s' => exact h s' rfl
  | error failure => exact .of_eq le_rfl rfl rfl rfl

/-- **Every turn** does what a turn may do. -/
theorem turn_advance (hat : p.At env s) : Advance env s (turn env p s).1 := by
  match p with
  | .asked (.login email password) => exact .of_eq le_rfl rfl rfl rfl
  | .asked (.guarded token action) => exact .of_eq le_rfl rfl rfl rfl
  | .asked (.wait milliseconds) => exact .of_eq le_rfl rfl rfl rfl
  | .done answer => exact .of_eq le_rfl rfl rfl rfl
  | .asked (.requestReset email) =>
    cases h : createToken env { s with drawn := s.drawn + 1 } email
      (env.hashToken (env.randomBytes s.drawn)) (s.now + env.resetTtl) s.now with
    | error failure =>
      simp only [turn, requestReset, drawToken, h]
      exact .of_eq (Nat.le_succ _) rfl rfl rfl
    | ok r =>
      simp only [turn, requestReset, drawToken, h]
      exact drawn_advance (createToken_advance h)
  | .asked (.completeReset token password) =>
    have hstore : (turn env (.asked (.completeReset token password)) s).1 =
        (consumeToken { s with drawn := s.drawn + 1 } (env.hashToken token)
          (env.hash s.drawn password) s.now).1 := by
      simp only [turn, completeReset]
      split <;> simp_all
    rw [hstore]
    exact drawn_advance consumeToken_advance
  | .verified identity =>
    cases h : createSession { s with drawn := s.drawn + 1 }
      (env.hashToken (env.randomBytes s.drawn)) identity.userId identity.tenantId
      (s.now + env.sessionTtl) with
    | error failure =>
      simp only [turn, openSession, drawToken, h]
      exact .of_eq (Nat.le_succ _) rfl rfl rfl
    | ok r =>
      simp only [turn, openSession, drawToken, h]
      exact createSession_advance hat h
  | .admitted principal token .refresh =>
    rcases @refresh_cases env s principal token with
      ⟨failure, h⟩ | ⟨m, expiresAt, hm, -, hunique, h⟩
    · simp only [turn, act, h]
      exact .of_eq (Nat.le_succ _) rfl rfl rfl
    · simp only [turn, act, h]
      exact rotated_advance hm hunique
  | .admitted principal token .logout => exact revokeSession_advance _ _
  | .admitted principal token .current => exact .of_eq le_rfl rfl rfl rfl
  | .admitted principal token .createRole => exact .of_eq le_rfl rfl rfl rfl
  | .admitted principal token (.createUser email normalizedEmail password assignment) =>
    exact drawn_advance (commit_advance fun s' h ↦ createUser_advance h)
  | .admitted principal token (.updateUser userId assignment) =>
    exact commit_advance fun s' h ↦ updateUser_advance h
  | .admitted principal token (.retireUser userId confirmationEmail) =>
    exact commit_advance fun s' h ↦ (retireUser_eq_ok h).2

theorem verifyPassword_leads {email : Text} : (verifyPassword env s email password).At env s ∧
    ∀ q, (verifyPassword env s email password).Apart q := by
  rw [verifyPassword]
  cases hfind : findLoginIdentity env s email with
  | none => exact ⟨trivial, fun _ ↦ trivial⟩
  | some identity =>
    dsimp only
    split
    · obtain ⟨u, hu, rfl⟩ := Option.map_eq_some_iff.mp hfind
      exact ⟨⟨u, find?_key_of_mem (mem_of_find?_eq_some hu), rfl⟩, fun _ ↦ trivial⟩
    · exact ⟨trivial, fun _ ↦ trivial⟩

theorem guardTurn_leads {token : Option Token} {action : Action} :
    (guardTurn env s token action).At env s ∧ ∀ q, (guardTurn env s token action).Apart q := by
  cases token with
  | none => exact ⟨trivial, fun _ ↦ trivial⟩
  | some token =>
    cases hactive : authenticate env s (some token) with
    | none =>
      simp only [guardTurn, hactive]
      exact ⟨trivial, fun _ ↦ trivial⟩
    | some principal =>
      simp only [guardTurn, hactive]
      obtain ⟨m, hm, hid, -⟩ := findActiveSession_eq_some hactive
      have hfind : s.sessions.find? m.id = some m := find?_key_of_mem hm
      exact ⟨⟨m, hid ▸ hfind⟩, fun _ ↦ trivial⟩

variable {sessionId : Uuid} {m : Session} {q : Process}

section

variable (hdraws : Function.Injective env.randomBytes) (hhash : Function.Injective env.hashToken)

include hdraws hhash in
/-- **A token that has been replaced is burnt.** -/
theorem rotated_burnt (hs : s.Sound env) {expiresAt : Timestamp}
    {currentToken : Token} (hm : s.sessions.find? sessionId = some m)
    (hcurrent : m.tokenHash = env.hashToken currentToken) :
    Burnt env {
      s with
      drawn := s.drawn + 1
      sessions := s.sessions.update sessionId
        (Session.rotate (env.hashToken (env.randomBytes s.drawn)) expiresAt) } currentToken := by
  obtain ⟨k, hk, hdrawn⟩ := hs.drawn m (mem_of_find? hm)
  have hsame : env.hashToken currentToken = env.hashToken (env.randomBytes k) :=
    hcurrent.symm.trans hdrawn
  have hnone : ∀ m' ∈ (s.sessions.update sessionId
      (Session.rotate (env.hashToken (env.randomBytes s.drawn)) expiresAt)).rows,
      m'.tokenHash ≠ env.hashToken currentToken := by
    intro m' hm' heq
    obtain ⟨m₀, hm₀, -, hwritten, hother⟩ := exists_of_mem_update hm'
    by_cases hsession : m₀.id = sessionId
    · obtain rfl := hwritten hsession
      have hdraw : env.randomBytes s.drawn = env.randomBytes k := hhash (heq.trans hsame)
      have : s.drawn = k := hdraws hdraw
      omega
    · obtain rfl := hother hsession
      have hone := hs.distinct m' hm₀ m (mem_of_find? hm) (heq.trans hcurrent.symm)
      exact hsession (hone.trans (key_of_find? hm))
  exact ⟨⟨k, Nat.lt_succ_of_lt hk, hsame⟩, hnone⟩

theorem commit_leads (h : ∀ s, (Process.done answer).At env s)
    (h' : ∀ q, (Process.done answer).Apart q) :
    (commit s answer r).2.At env (commit s answer r).1 ∧ ∀ q, (commit s answer r).2.Apart q := by
  cases r with
  | ok s' => exact ⟨h s', h'⟩
  | error failure => exact ⟨trivial, fun _ ↦ trivial⟩

theorem leads_of_free (h : p.At env s' ∧ ∀ q, p.Apart q) :
    p.At env s' ∧ (p = q ∨ ∀ q, q.At env s → p.Apart q) :=
  ⟨h.1, .inr fun q _ ↦ h.2 q⟩

include hdraws hhash in
/-- **Where a turn leads**: to a place that is apart from every other, when it leads anywhere. -/
theorem turn_leads (hs : s.Sound env) (hat : p.At env s) :
    (turn env p s).2.At env (turn env p s).1 ∧
      ((turn env p s).2 = p ∨ ∀ q, q.At env s → (turn env p s).2.Apart q) := by
  match p with
  | .done answer => exact ⟨hat, .inl rfl⟩
  | .asked (.login email password) => exact leads_of_free verifyPassword_leads
  | .asked (.guarded token action) => exact leads_of_free guardTurn_leads
  | .asked (.wait milliseconds) => exact leads_of_free ⟨trivial, fun _ ↦ trivial⟩
  | .asked (.requestReset email) =>
    refine leads_of_free ?_
    rw [turn, requestReset]
    dsimp only
    split <;> exact ⟨trivial, fun _ ↦ trivial⟩
  | .asked (.completeReset token password) =>
    rw [turn]
    rcases @completeReset_cases env s token password with
      h | ⟨userId, passwordHash, ⟨r, hr, htoken, hunused⟩, hused, h⟩
    · rw [h]
      exact ⟨trivial, .inr fun _ _ ↦ trivial⟩
    · rw [h]
      refine ⟨hused, .inr fun q hq ↦ ?_⟩
      cases q with
      | done answer =>
        cases answer with
        -- the other's token is used, this one's was not
        | passwordReset token' userId' =>
          obtain ⟨r', hr', htoken', hused⟩ := hq
          show token ≠ token'
          rintro rfl
          obtain rfl := hs.resets.distinct r hr r' hr' (htoken.trans htoken'.symm)
          exact hused hunused
        | _ => trivial
      | _ => trivial
  | .verified identity =>
    refine leads_of_free ?_
    rw [turn, openSession]
    dsimp only
    split <;> exact ⟨trivial, fun _ ↦ trivial⟩
  | .admitted principal token .refresh =>
    rw [turn, act]
    rcases @refresh_cases env s principal token with
      ⟨failure, h⟩ | ⟨m, expiresAt, hm, hcurrent, -, h⟩
    · rw [h]
      exact ⟨trivial, .inr fun _ _ ↦ trivial⟩
    · rw [h]
      refine ⟨rotated_burnt hdraws hhash hs hm hcurrent, .inr fun q hq ↦ ?_⟩
      cases q with
      | done answer =>
        cases answer with
        -- the other's token is in no row, this one's was in the session's
        | refreshed token' sessionId nextToken =>
          show token ≠ token'
          rintro rfl
          exact hq.2 m (mem_of_find? hm) hcurrent
        | _ => trivial
      | _ => trivial
  | .admitted principal token .logout | .admitted principal token .current
  | .admitted principal token .createRole => exact leads_of_free ⟨trivial, fun _ ↦ trivial⟩
  | .admitted principal token (.createUser _ _ _ _)
  | .admitted principal token (.updateUser _ _) | .admitted principal token (.retireUser _ _) =>
    exact leads_of_free (commit_leads (fun _ ↦ trivial) fun _ ↦ trivial)

theorem Process.Apart.symm (h : p.Apart q) : q.Apart p := by
  unfold Process.Apart at h ⊢
  split at h
  · exact Ne.symm h
  · exact Ne.symm h
  case h_3 hrefreshed hreset =>
    split
    case h_1 => exact absurd rfl (hrefreshed _ _ _ _ _ _ rfl)
    case h_2 => exact absurd rfl (hreset _ _ _ _ rfl)
    case h_3 => trivial

/-! ### Runs -/

variable (env) in
def outline : Processes.Outline AuthStore Process where
  Inv st := st.store.Sound env
  At := Process.At env
  Apart := Process.Apart
  symm := Process.Apart.symm

include hdraws hhash in
/-- **The outline is kept** by every event. -/
theorem outline_keeps : (outline env).Keeps (system env) fun _ _ ↦ True where
  start := fun _ _ hst _ ↦ ⟨hst.inv, trivial, fun _ _ ↦ trivial⟩
  turn := by
    intro st n p hst _ hp
    have hat : p.At env st.store := hst.places p (mem_of_getElem? hp)
    have hadvance : Advance env st.store (turn env p st.store).1 := turn_advance hat
    have hleads := turn_leads hdraws hhash hst.inv hat
    refine ⟨AuthStore.Sound.advance hst.inv hadvance, hleads.1, fun m q hmn hq ↦ ?_⟩
    have hatq : q.At env st.store := hst.places q (mem_of_getElem? hq)
    refine ⟨hatq.advance hdraws hhash hadvance, ?_⟩
    rcases hleads.2 with hsame | hfree
    · show (turn env p st.store).2.Apart q
      rw [hsame]
      exact hst.apart n m p q (Ne.symm hmn) hp hq
    · exact hfree q hatq

variable (env) in
def reached (s₀ : AuthStore) (events : List (Processes.Event Request)) :
    Processes.State AuthStore Process :=
  run (Processes.step (system env)) (.idle s₀) events

theorem reached_append (s₀ : AuthStore) (before after : List (Processes.Event Request)) :
    reached env s₀ (before ++ after) =
      run (Processes.step (system env)) (reached env s₀ before) after :=
  run_append _ _ _ _

variable {s₀ : AuthStore} {before : List (Processes.Event Request)} {n : ℕ}

include hdraws hhash

/-- **The outline holds of every state that is reached.** -/
theorem reached_holds (hs₀ : s₀.Unused)
    (events : List (Processes.Event Request)) : (outline env).Holds (reached env s₀ events) :=
  (outline_keeps hdraws hhash).run (.idle hs₀.sound) events
    (Processes.Outline.along_of_forall (fun _ _ ↦ trivial) events)

/-- **What is barred at some moment is barred from then on.** -/
theorem barred_run {st : Processes.State AuthStore Process}
    (hst : (outline env).Holds st) (hbarred : Barred st.store sessionId)
    (events : List (Processes.Event Request)) :
    Barred (run (Processes.step (system env)) st events).store sessionId := by
  have hstep : ∀ st event st', ((outline env).Holds st ∧ Barred st.store sessionId) →
      Processes.step (system env) st event = .ok st' →
      (outline env).Holds st' ∧ Barred st'.store sessionId := by
    rintro st event st' ⟨hst, hbarred⟩ h
    refine ⟨(outline_keeps hdraws hhash).step hst trivial h, ?_⟩
    cases event with
    | start request =>
      cases h
      exact hbarred
    | turn n =>
      obtain ⟨p, hp, rfl⟩ := Processes.step_turn_eq_ok.mp h
      exact hbarred.advance hst.inv (turn_advance (hst.places p (mem_of_getElem? hp)))
  exact (run_induct hstep ⟨hst, hbarred⟩ events).2

end

theorem reached_turn (hp : (reached env s₀ before).processes[n]? = some p) :
    (reached env s₀ (before ++ [.turn n])).store = (turn env p (reached env s₀ before).store).1 ∧
      (reached env s₀ (before ++ [.turn n])).processes[n]? =
        some (turn env p (reached env s₀ before).store).2 := by
  have hstep := Processes.step_turn_eq_ok.mpr
    ⟨p, hp, (rfl : _ = Processes.State.mk ((system env).turn p (reached env s₀ before).store).1 _)⟩
  have hone : reached env s₀ (before ++ [.turn n]) =
      { store := ((system env).turn p (reached env s₀ before).store).1
        processes := (reached env s₀ before).processes.set n
          ((system env).turn p (reached env s₀ before).store).2 } := by
    rw [reached_append, run_cons, exec_of_ok hstep]
    rfl
  rw [hone]
  exact ⟨rfl, getElem?_set_self (List.getElem?_eq_some_iff.mp hp).1⟩

/-! ### What bars a session -/

theorem logout_barred {now : Timestamp} (hm : s.sessions.find? sessionId = some m) :
    Barred (revokeSession s sessionId now) sessionId := by
  by_cases hrevoked : m.revokedAt = none
  · refine ⟨Session.revoke now m, ?_, .inl (by simp [Session.revoke])⟩
    show (s.sessions.updateWhere _ _).find? sessionId = _
    rw [find?_updateWhere, hm]
    exact congrArg some (if_pos ⟨key_of_find? hm, hrevoked⟩)
  · refine ⟨m, ?_, .inl hrevoked⟩
    show (s.sessions.updateWhere _ _).find? sessionId = _
    rw [find?_updateWhere, hm]
    exact congrArg some (if_neg fun h ↦ hrevoked h.2)

theorem reset_barred {token token' : Token} {userId : Uuid}
    (h : (completeReset env s token password).2 = .done (.passwordReset token' userId))
    (hm : m ∈ s.sessions.rows) (huser : m.userId = userId) :
    Barred (completeReset env s token password).1 m.id := by
  rcases @completeReset_cases env s token password with
    hcase | ⟨userId', passwordHash, -, -, hcase⟩
  · rw [hcase] at h
    cases h
  · rw [hcase] at h
    cases h
    rw [hcase]
    have hfind : s.sessions.find? m.id = some m := find?_key_of_mem hm
    by_cases hrevoked : m.revokedAt = none
    · refine ⟨Session.revoke s.now m, ?_, .inl (by simp [Session.revoke])⟩
      rw [find?_updateWhere, hfind]
      exact congrArg some (if_pos ⟨huser, hrevoked⟩)
    · refine ⟨m, ?_, .inl hrevoked⟩
      rw [find?_updateWhere, hfind]
      exact congrArg some (if_neg fun h ↦ hrevoked h.2)

theorem retirement_retires {principal : SessionIdentity} {token : Token} {userId userId' : Uuid}
    {confirmationEmail : Text}
    (h : (act env s principal token (.retireUser userId confirmationEmail)).2 =
      .done (.userRetired userId')) :
    userId' = userId ∧
      (act env s principal token (.retireUser userId confirmationEmail)).1.Retired userId := by
  rw [act] at h ⊢
  cases hretire : retireUser s {
    tenantId := principal.tenantId, actorUserId := principal.userId, userId := userId,
    confirmationEmail := confirmationEmail } with
  | error failure =>
    rw [hretire] at h
    cases h
  | ok s' =>
    rw [hretire] at h
    cases h
    exact ⟨rfl, (@retireUser_eq_ok env s s' _ hretire).1⟩

/-! ### Safety -/

/-- **What is safe about sessions** in a run. -/
structure SessionsSafe (env : AuthEnv) (s₀ : AuthStore)
    (events : List (Processes.Event Request)) : Prop where
  /-- A session has one token that is valid. -/
  one_token : ∀ token token' now now' principal principal',
    findActiveSession (reached env s₀ events).store (env.hashToken token) now = some principal →
    findActiveSession (reached env s₀ events).store (env.hashToken token') now' = some principal' →
    principal.sessionId = principal'.sessionId → token = token'
  /-- Of the refreshes with one token, one goes through. -/
  refreshed_once : ∀ (m n : ℕ) currentToken token token' expiresAt expiresAt',
    (reached env s₀ events).processes[m]? = some (.done (.refreshed currentToken token expiresAt)) →
    (reached env s₀ events).processes[n]? =
      some (.done (.refreshed currentToken token' expiresAt')) → m = n
  /-- The session that a logout is a request of. -/
  logged_out : ∀ before after n principal token, events = before ++ .turn n :: after →
    (reached env s₀ before).processes[n]? = some (.admitted principal token .logout) →
    ¬Authenticates env (reached env s₀ events).store principal.sessionId
  /-- The sessions that a completed reset finds. -/
  reset : ∀ before after n token token' password userId, events = before ++ .turn n :: after →
    (reached env s₀ before).processes[n]? = some (.asked (.completeReset token password)) →
    (reached env s₀ (before ++ [.turn n])).processes[n]? =
      some (.done (.passwordReset token' userId)) →
    ∀ m ∈ (reached env s₀ before).store.sessions.rows, m.userId = userId →
      ¬Authenticates env (reached env s₀ events).store m.id
  /-- A retirement that goes through leaves the user retired. -/
  retired : ∀ before n principal token userId userId' confirmationEmail,
    (∃ after, events = before ++ .turn n :: after) →
    (reached env s₀ before).processes[n]? =
      some (.admitted principal token (.retireUser userId confirmationEmail)) →
    (reached env s₀ (before ++ [.turn n])).processes[n]? = some (.done (.userRetired userId')) →
    (reached env s₀ (before ++ [.turn n])).store.Retired userId
  /-- The sessions that are there while their user is retired. -/
  barred_while_retired : ∀ before after, events = before ++ after →
    ∀ m ∈ (reached env s₀ before).store.sessions.rows,
      (reached env s₀ before).store.Retired m.userId →
      ¬Authenticates env (reached env s₀ events).store m.id
  /-- A user has one reset token that is not used. -/
  one_reset_token : ∀ r ∈ (reached env s₀ events).store.resetTokens.rows,
    ∀ r' ∈ (reached env s₀ events).store.resetTokens.rows,
      r.userId = r'.userId → r.usedAt = none → r'.usedAt = none → r = r'
  /-- A reset token is used once. -/
  reset_once : ∀ (m n : ℕ) token userId userId',
    (reached env s₀ events).processes[m]? = some (.done (.passwordReset token userId)) →
    (reached env s₀ events).processes[n]? = some (.done (.passwordReset token userId')) → m = n

theorem not_authenticates_of_turn (hdraws : Function.Injective env.randomBytes)
    (hhash : Function.Injective env.hashToken) (hs₀ : s₀.Unused)
    {after : List (Processes.Event Request)} (hp : (reached env s₀ before).processes[n]? = some p)
    (hbarred : Barred (turn env p (reached env s₀ before).store).1 sessionId) :
    ¬Authenticates env (reached env s₀ (before ++ .turn n :: after)).store sessionId := by
  have hthen : Barred (reached env s₀ (before ++ [.turn n])).store sessionId := by
    rw [(reached_turn hp).1]
    exact hbarred
  have hevents : before ++ .turn n :: after = (before ++ [.turn n]) ++ after := by simp
  rw [hevents, reached_append]
  exact (barred_run hdraws hhash (reached_holds hdraws hhash hs₀ _) hthen after).not_authenticates

/-- **Sessions are safe**, when no draw comes twice and no two tokens have one digest. -/
theorem sessions_safe (hdraws : Function.Injective env.randomBytes)
    (hhash : Function.Injective env.hashToken) (hs₀ : s₀.Unused)
    (events : List (Processes.Event Request)) : SessionsSafe env s₀ events := by
  have hholds := reached_holds hdraws hhash hs₀ events
  have hsound : (reached env s₀ events).store.Sound env := hholds.inv
  constructor
  case one_token =>
    intro token token' now now' principal principal' hactive hactive' hsession
    obtain ⟨m, hm, hid, htoken, -⟩ := findActiveSession_eq_some hactive
    obtain ⟨m', hm', hid', htoken', -⟩ := findActiveSession_eq_some hactive'
    have hsame : m = m' :=
      Table.eq_of_mem_of_key_eq hm hm' (hid.trans (hsession.trans hid'.symm))
    rw [← hsame, htoken] at htoken'
    exact hhash htoken'
  case refreshed_once =>
    intro m n currentToken token token' expiresAt expiresAt' hm hn
    by_contra hmn
    exact hholds.apart m n _ _ hmn hm hn rfl
  case reset_once =>
    intro m n token userId userId' hm hn
    by_contra hmn
    exact hholds.apart m n _ _ hmn hm hn rfl
  case logged_out =>
    intro before after n principal token hevents hp
    have hat := (reached_holds hdraws hhash hs₀ before).places _ (List.mem_of_getElem? hp)
    obtain ⟨m, hm⟩ := hat
    rw [hevents]
    exact not_authenticates_of_turn hdraws hhash hs₀ hp (logout_barred hm)
  case reset =>
    intro before after n token token' password userId hevents hp hdone m hm huser
    rw [(reached_turn hp).2] at hdone
    rw [hevents]
    exact not_authenticates_of_turn hdraws hhash hs₀ hp
      (reset_barred (Option.some_inj.mp hdone) hm huser)
  case retired =>
    intro before n principal token userId userId' confirmationEmail _ hp hdone
    rw [(reached_turn hp).2] at hdone
    rw [(reached_turn hp).1]
    exact (@retirement_retires env _ principal token userId userId' confirmationEmail
      (Option.some_inj.mp hdone)).2
  case barred_while_retired =>
    intro before after hevents m hm hretired
    rw [hevents, reached_append]
    have hbarred : Barred (reached env s₀ before).store m.id :=
      ⟨m, Table.find?_key_of_mem hm, Or.inr hretired⟩
    exact (barred_run hdraws hhash (reached_holds hdraws hhash hs₀ _) hbarred
      after).not_authenticates
  case one_reset_token => exact hsound.resets.one_unused

/-! ### Runs -/

/-- Draws that count up, digests and hashes that can be read, passwords verified by their length. -/
def plainEnv : AuthEnv where
  randomBytes := id
  hashToken := id
  hash _ password := password.length
  verify passwordHash password := decide (passwordHash = password.length)
  dummyHash := 0
  collate := id
  sessionTtl := 1000
  resetTtl := 1000

def oneUser : AuthStore where
  users := .ofRow {
    id := 7, tenantId := 1, email := [97], normalizedEmail := [97], passwordHash := 1,
    accessRevokedAt := none }
  sessions := ⟨[], by decide⟩
  resetTokens := ⟨[], by decide⟩
  roles := []
  branches := []
  cashRegisters := []
  userRoles := []
  userBranchAccess := []
  userCashRegisterAccess := []
  drawn := 0
  now := 0

/-- The user logs in, asks for a reset and completes it, and logs out. -/
def resetRun : List (Processes.Event Request) :=
  [.start (.login [97] [5]), .turn 0, .turn 0, .start (.guarded (some 0) .logout), .turn 1,
    .start (.requestReset [97]), .turn 2, .start (.completeReset 1 [5, 6]), .turn 3, .turn 1]

theorem sessions_safe_resetRun : SessionsSafe plainEnv oneUser resetRun :=
  sessions_safe Function.injective_id Function.injective_id ⟨rfl, rfl⟩ resetRun

def logoutRun : List (Processes.Event Request) :=
  [.start (.login [97] [5]), .turn 0, .turn 0, .start (.login [97] [5]), .turn 1, .turn 1,
    .start (.guarded (some 0) .logout), .turn 2, .turn 2]

/-- A login whose password is verified before the reset, and whose session is inserted after it. -/
def lateRun : List (Processes.Event Request) :=
  [.start (.login [97] [5]), .turn 0, .start (.requestReset [97]), .turn 1,
    .start (.completeReset 0 [5, 6]), .turn 2, .turn 0]

/-- **Sessions that remain** after a logout, and after a reset of the password. -/
theorem sessions_remain :
    ((reached plainEnv oneUser logoutRun).processes[2]? = some (.done (.loggedOut 0)) ∧
      (reached plainEnv oneUser logoutRun).processes[1]? = some (.done (.loggedIn 1 1 1000)) ∧
      (findActiveSession (reached plainEnv oneUser logoutRun).store (plainEnv.hashToken 1) 0).map
        (fun principal ↦ (principal.sessionId, principal.userId)) = some (1, 7)) ∧
    (reached plainEnv oneUser lateRun).processes[2]? = some (.done (.passwordReset 0 7)) ∧
      (reached plainEnv oneUser (lateRun.take 2)).processes[0]? = some (.verified {
        userId := 7, email := [97], tenantId := 1, passwordHash := 1 }) ∧
      (findActiveSession (reached plainEnv oneUser lateRun).store (plainEnv.hashToken 2) 0).map
        (fun principal ↦ (principal.sessionId, principal.userId)) = some (0, 7) := by
  decide +kernel

end UInventario.Auth
