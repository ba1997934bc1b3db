import UInventario.Auth.Requests

/-!
# What the requests do to sessions, users and tokens

`Advance` says once what a turn may make of the store, and every statement of the repositories does
no more than that. What lasts follows from it: revocation is a law, as no statement takes
`revoked_at` back (`Barred.advance`), and a token that is in no row any more does not come back, as
no draw comes twice (`Burnt.advance`).
-/

namespace UInventario.Auth

open Outcome Table List

variable {env : AuthEnv}

/-! ### What holds of the tables -/

def AuthStore.DistinctTokens (s : AuthStore) : Prop :=
  ∀ m ∈ s.sessions.rows, ∀ m' ∈ s.sessions.rows, m.tokenHash = m'.tokenHash → m.id = m'.id

/-- **What holds of the reset tokens**: no two are one, and a user has at most one that is not used.
-/
structure AuthStore.ResetsSound (s : AuthStore) : Prop where
  distinct : ∀ r ∈ s.resetTokens.rows, ∀ r' ∈ s.resetTokens.rows,
    r.tokenHash = r'.tokenHash → r = r'
  one_unused : ∀ r ∈ s.resetTokens.rows, ∀ r' ∈ s.resetTokens.rows,
    r.userId = r'.userId → r.usedAt = none → r'.usedAt = none → r = r'

/-- **What holds of the store.** -/
structure AuthStore.Sound (env : AuthEnv) (s : AuthStore) : Prop where
  drawn : ∀ m ∈ s.sessions.rows, ∃ k < s.drawn, m.tokenHash = env.hashToken (env.randomBytes k)
  distinct : s.DistinctTokens
  owners : ∀ m ∈ s.sessions.rows, ∃ u, s.users.find? m.userId = some u ∧ u.tenantId = m.tenantId
  resets : s.ResetsSound

structure AuthStore.Unused (s : AuthStore) : Prop where
  sessions : s.sessions.rows = []
  resetTokens : s.resetTokens.rows = []

theorem AuthStore.Unused.sound {s : AuthStore} (h : s.Unused) : s.Sound env where
  drawn := fun m hm ↦ by
    rw [h.sessions] at hm
    exact absurd hm not_mem_nil
  distinct := fun m hm ↦ by
    rw [h.sessions] at hm
    exact absurd hm not_mem_nil
  owners := fun m hm ↦ by
    rw [h.sessions] at hm
    exact absurd hm not_mem_nil
  resets := ⟨fun r hr ↦ by
      rw [h.resetTokens] at hr
      exact absurd hr not_mem_nil,
    fun r hr ↦ by
      rw [h.resetTokens] at hr
      exact absurd hr not_mem_nil⟩

/-! ### What a turn does -/

/-- The sessions keep their users and what revokes them, and a token that was not there has just
been drawn. -/
structure SessionsAdvance (env : AuthEnv) (s s' : AuthStore) : Prop where
  kept : ∀ id m, s.sessions.find? id = some m → ∃ m', s'.sessions.find? id = some m' ∧
    m'.userId = m.userId ∧ m'.tenantId = m.tenantId ∧ (m.revokedAt ≠ none → m'.revokedAt ≠ none)
  hashes : ∀ m' ∈ s'.sessions.rows,
    (∃ m ∈ s.sessions.rows, m.id = m'.id ∧ m.tokenHash = m'.tokenHash) ∨
      ∃ k, s.drawn ≤ k ∧ k < s'.drawn ∧ m'.tokenHash = env.hashToken (env.randomBytes k)
  owners : ∀ m' ∈ s'.sessions.rows,
    (∃ m ∈ s.sessions.rows, m.userId = m'.userId ∧ m.tenantId = m'.tenantId) ∨
      ∃ u, s'.users.find? m'.userId = some u ∧ u.tenantId = m'.tenantId
  distinct : s.DistinctTokens → s'.DistinctTokens

structure ResetsAdvance (s s' : AuthStore) : Prop where
  spent : ∀ r ∈ s.resetTokens.rows, r.usedAt ≠ none →
    ∃ r' ∈ s'.resetTokens.rows, r'.tokenHash = r.tokenHash ∧ r'.usedAt ≠ none
  sound : s.ResetsSound → s'.ResetsSound

/-- The users keep their tenants, and one whose access is given back has no session that is not
revoked. -/
def UsersAdvance (s s' : AuthStore) : Prop :=
  ∀ id u, s.users.find? id = some u → ∃ u', s'.users.find? id = some u' ∧
    u'.tenantId = u.tenantId ∧ (u.accessRevokedAt ≠ none → u'.accessRevokedAt ≠ none ∨
      ∀ m ∈ s'.sessions.rows, m.userId = id → m.tenantId = u.tenantId → m.revokedAt ≠ none)

/-- **What a turn does.** -/
structure Advance (env : AuthEnv) (s s' : AuthStore) : Prop where
  drawn : s.drawn ≤ s'.drawn
  users : UsersAdvance s s'
  sessions : SessionsAdvance env s s'
  resets : ResetsAdvance s s'

variable {s s' : AuthStore}

theorem UsersAdvance.of_eq (h : s'.users = s.users) : UsersAdvance s s' := by
  intro id u hu
  rw [h]
  exact ⟨u, hu, rfl, .inl⟩

theorem SessionsAdvance.of_eq (h : s'.sessions = s.sessions) : SessionsAdvance env s s' where
  kept := by
    rw [h]
    exact fun id m hm ↦ ⟨m, hm, rfl, rfl, fun hrevoked ↦ hrevoked⟩
  hashes := by
    rw [h]
    exact fun m hm ↦ .inl ⟨m, hm, rfl, rfl⟩
  owners := by
    rw [h]
    exact fun m hm ↦ .inl ⟨m, hm, rfl, rfl⟩
  distinct := by
    rw [AuthStore.DistinctTokens, AuthStore.DistinctTokens, h]
    exact fun hdistinct ↦ hdistinct

theorem ResetsAdvance.of_eq (h : s'.resetTokens = s.resetTokens) : ResetsAdvance s s' where
  spent := by
    rw [h]
    exact fun r hr hused ↦ ⟨r, hr, rfl, hused⟩
  sound := by
    rintro ⟨hdistinct, hone⟩
    constructor
    · rw [h]
      exact hdistinct
    · rw [h]
      exact hone

theorem Advance.of_eq (hdrawn : s.drawn ≤ s'.drawn) (husers : s'.users = s.users)
    (hsessions : s'.sessions = s.sessions) (hresets : s'.resetTokens = s.resetTokens) :
    Advance env s s' :=
  ⟨hdrawn, .of_eq husers, .of_eq hsessions, .of_eq hresets⟩

theorem SessionsAdvance.revoked {p : Session → Prop} [DecidablePred p] {revokedAt : Timestamp}
    (h : s'.sessions = s.sessions.updateWhere p (Session.revoke revokedAt)) :
    SessionsAdvance env s s' := by
  have hback : ∀ m' ∈ s'.sessions.rows, ∃ m ∈ s.sessions.rows, m.id = m'.id ∧
      m.tokenHash = m'.tokenHash ∧ m.userId = m'.userId ∧ m.tenantId = m'.tenantId := by
    intro m' hm'
    rw [h, mem_updateWhere] at hm'
    obtain ⟨m, hm, rfl⟩ := hm'
    refine ⟨m, hm, ?_⟩
    split
    · exact ⟨rfl, rfl, rfl, rfl⟩
    · exact ⟨rfl, rfl, rfl, rfl⟩
  refine ⟨fun id m hm ↦ ?_, fun m' hm' ↦ ?_, fun m' hm' ↦ ?_, fun hdistinct m hm m' hm' heq ↦ ?_⟩
  · rw [h, find?_updateWhere, hm]
    refine ⟨_, rfl, ?_⟩
    dsimp only
    split
    · exact ⟨rfl, rfl, fun _ ↦ by simp [Session.revoke]⟩
    · exact ⟨rfl, rfl, fun hrevoked ↦ hrevoked⟩
  · obtain ⟨m, hm, hid, hhash, -⟩ := hback m' hm'
    exact .inl ⟨m, hm, hid, hhash⟩
  · obtain ⟨m, hm, -, -, huser, htenant⟩ := hback m' hm'
    exact .inl ⟨m, hm, huser, htenant⟩
  · obtain ⟨m₁, hm₁, hid₁, hhash₁, -⟩ := hback m hm
    obtain ⟨m₂, hm₂, hid₂, hhash₂, -⟩ := hback m' hm'
    rw [← hid₁, ← hid₂]
    exact hdistinct m₁ hm₁ m₂ hm₂ (hhash₁.trans (heq.trans hhash₂.symm))

theorem revokeSession_advance (sessionId : Uuid) (revokedAt : Timestamp) :
    Advance env s (revokeSession s sessionId revokedAt) :=
  ⟨le_rfl, .of_eq rfl, .revoked rfl, .of_eq rfl⟩

variable {userId : Uuid} {expiresAt : Timestamp} {tenantId : Uuid}

/-- **A session is opened.** -/
theorem createSession_advance {r : AuthStore × Uuid}
    (huser : ∃ u, s.users.find? userId = some u ∧ u.tenantId = tenantId)
    (h : createSession { s with drawn := s.drawn + 1 }
      (env.hashToken (env.randomBytes s.drawn)) userId tenantId expiresAt = .ok r) :
    Advance env s r.1 := by
  simp only [createSession, eq_ok] at h
  obtain ⟨_, -, -, hunique, sessions, hinsert, rfl⟩ := h
  refine ⟨Nat.le_succ _, .of_eq rfl, ?_, .of_eq rfl⟩
  refine ⟨fun id m hm ↦ ?_, fun m' hm' ↦ ?_, fun m' hm' ↦ ?_, fun hdistinct m hm m' hm' heq ↦ ?_⟩
  · exact ⟨m, find?_insert_of_some hinsert hm, rfl, rfl, fun hrevoked ↦ hrevoked⟩
  · rcases (mem_insert hinsert).mp hm' with hm | rfl
    · exact .inl ⟨m', hm, rfl, rfl⟩
    · exact .inr ⟨s.drawn, le_rfl, Nat.lt_succ_self _, rfl⟩
  · rcases (mem_insert hinsert).mp hm' with hm | rfl
    · exact .inl ⟨m', hm, rfl, rfl⟩
    · exact .inr huser
  · rcases (mem_insert hinsert).mp hm with hm | rfl
    · rcases (mem_insert hinsert).mp hm' with hm' | rfl
      · exact hdistinct m hm m' hm' heq
      · exact absurd heq (hunique m hm)
    · rcases (mem_insert hinsert).mp hm' with hm' | rfl
      · exact absurd heq.symm (hunique m' hm')
      · rfl

variable {sessionId : Uuid} {now : Timestamp}

/-- **What a refresh that goes through has found**, and what it leaves. -/
theorem rotateSession_eq_ok {currentTokenHash nextTokenHash : TokenHash} {r : AuthStore × Bool}
    (h : rotateSession s sessionId currentTokenHash nextTokenHash expiresAt now = .ok r) :
    r = (s, false) ∨ ∃ m, s.sessions.find? sessionId = some m ∧ m.tokenHash = currentTokenHash ∧
      (∀ m' ∈ s.sessions.rows, m'.id ≠ sessionId → m'.tokenHash ≠ nextTokenHash) ∧
      r = ({ s with
        sessions := s.sessions.update sessionId (Session.rotate nextTokenHash expiresAt) },
          true) := by
  rw [rotateSession] at h
  split at h
  · exact .inl (pure_eq_ok.mp h).symm
  case h_2 m hm =>
    split at h
    case isTrue hrotatable =>
      simp only [eq_ok] at h
      obtain ⟨⟨⟩, hunique, rfl⟩ := h
      exact .inr ⟨m, hm, hrotatable.1, hunique, rfl⟩
    case isFalse => exact .inl (pure_eq_ok.mp h).symm

/-- **A session gets its next token.** -/
theorem rotated_advance {m₀ : Session} (hm₀ : s.sessions.find? sessionId = some m₀)
    (hunique : ∀ m' ∈ s.sessions.rows, m'.id ≠ sessionId →
      m'.tokenHash ≠ env.hashToken (env.randomBytes s.drawn)) :
    Advance env s {
      s with
      drawn := s.drawn + 1
      sessions := s.sessions.update sessionId
        (Session.rotate (env.hashToken (env.randomBytes s.drawn)) expiresAt) } := by
  refine ⟨Nat.le_succ _, .of_eq rfl, ?_, .of_eq rfl⟩
  -- a row is the one that is written, or was there
  have hback : ∀ m' ∈ (s.sessions.update sessionId
      (Session.rotate (env.hashToken (env.randomBytes s.drawn)) expiresAt)).rows,
      (m'.id = sessionId ∧ m'.tokenHash = env.hashToken (env.randomBytes s.drawn) ∧
        m'.userId = m₀.userId ∧ m'.tenantId = m₀.tenantId) ∨
        m' ∈ s.sessions.rows ∧ m'.id ≠ sessionId := by
    intro m' hm'
    rcases of_mem_update _ hm₀ hm' with rfl | hm
    · exact .inl ⟨key_of_find? hm₀, rfl, rfl, rfl⟩
    · exact .inr hm
  refine ⟨fun id m hm ↦ ?_, fun m' hm' ↦ ?_, fun m' hm' ↦ ?_, fun hdistinct m hm m' hm' heq ↦ ?_⟩
  · rw [find?_update, hm]
    refine ⟨_, rfl, ?_⟩
    split
    · exact ⟨rfl, rfl, fun hrevoked ↦ hrevoked⟩
    · exact ⟨rfl, rfl, fun hrevoked ↦ hrevoked⟩
  · rcases hback m' hm' with ⟨-, hhash, -⟩ | ⟨hm, -⟩
    · exact .inr ⟨s.drawn, le_rfl, Nat.lt_succ_self _, hhash⟩
    · exact .inl ⟨m', hm, rfl, rfl⟩
  · rcases hback m' hm' with ⟨-, -, huser, htenant⟩ | ⟨hm, -⟩
    · exact .inl ⟨m₀, mem_of_find? hm₀, huser.symm, htenant.symm⟩
    · exact .inl ⟨m', hm, rfl, rfl⟩
  · rcases hback m hm with ⟨hid, hhash, -⟩ | ⟨hm, hne⟩
    · rcases hback m' hm' with ⟨hid', -⟩ | ⟨hm', hne'⟩
      · exact hid.trans hid'.symm
      · exact absurd (heq.symm.trans hhash) (hunique m' hm' hne')
    · rcases hback m' hm' with ⟨-, hhash', -⟩ | ⟨hm', -⟩
      · exact absurd (heq.trans hhash') (hunique m hm hne)
      · exact hdistinct m hm m' hm' heq

theorem mem_useTokens {r' : ResetToken} (h : r' ∈ (useTokens s userId now).rows) :
    ∃ r ∈ s.resetTokens.rows, r.id = r'.id ∧ r.userId = r'.userId ∧ r.tokenHash = r'.tokenHash ∧
      (r'.usedAt = none → r = r' ∧ r.userId ≠ userId) := by
  obtain ⟨r, hr, rfl⟩ := Table.mem_updateWhere.mp h
  refine ⟨r, hr, ?_⟩
  split
  · exact ⟨rfl, rfl, rfl, fun hused ↦ by cases hused⟩
  case isFalse hkept =>
    exact ⟨rfl, rfl, rfl, fun hused ↦ ⟨rfl, fun huser ↦ hkept ⟨huser, hused⟩⟩⟩

theorem useTokens_spent {r : ResetToken} (hr : r ∈ s.resetTokens.rows) (hused : r.usedAt ≠ none) :
    ∃ r' ∈ (useTokens s userId now).rows, r'.tokenHash = r.tokenHash ∧ r'.usedAt ≠ none := by
  refine ⟨r, Table.mem_updateWhere.mpr ⟨r, hr, ?_⟩, rfl, hused⟩
  exact if_neg fun h ↦ hused h.2

theorem useTokens_distinct (hs : s.ResetsSound) :
    ∀ r ∈ (useTokens s userId now).rows, ∀ r' ∈ (useTokens s userId now).rows,
      r.tokenHash = r'.tokenHash → r = r' := by
  intro r hr r' hr' heq
  obtain ⟨r₁, hr₁, hid, -, hhash, -⟩ := mem_useTokens hr
  obtain ⟨r₂, hr₂, hid', -, hhash', -⟩ := mem_useTokens hr'
  have hsame := hs.distinct r₁ hr₁ r₂ hr₂ (hhash.trans (heq.trans hhash'.symm))
  refine eq_of_mem_of_key_eq hr hr' ?_
  show r.id = r'.id
  rw [← hid, ← hid', hsame]

variable {tokenHash : TokenHash} {passwordHash : PasswordHash} {token : Token}

/-- **A reset token is issued**: it takes the place of those of its user. -/
theorem createToken_advance {normalizedEmail : Text} {r : AuthStore × Option (Text × Uuid)}
    (h : createToken env s normalizedEmail tokenHash expiresAt now = .ok r) :
    Advance env s r.1 := by
  rw [createToken] at h
  split at h
  · obtain rfl := pure_eq_ok.mp h
    exact .of_eq le_rfl rfl rfl rfl
  case h_2 user _ =>
    simp only [eq_ok] at h
    obtain ⟨⟨⟩, hunique, tokens, hinsert, rfl⟩ := h
    refine ⟨le_rfl, .of_eq rfl, .of_eq rfl, fun x hx hused ↦ ?_, fun hs ↦ ?_⟩
    · obtain ⟨x', hx', hspent⟩ := @useTokens_spent s user.id now x hx hused
      exact ⟨x', (mem_insert hinsert).mpr (.inl hx'), hspent⟩
    -- the token that is issued is the only one of its user that is not used
    · have hnew : ∀ x ∈ (useTokens s user.id now).rows, x.tokenHash ≠ tokenHash := by
        intro x hx
        obtain ⟨x₀, hx₀, -, -, hhash, -⟩ := mem_useTokens hx
        exact hhash ▸ hunique x₀ hx₀
      constructor
      · intro x hx y hy heq
        rcases (mem_insert hinsert).mp hx with hx | rfl
        · rcases (mem_insert hinsert).mp hy with hy | rfl
          · exact useTokens_distinct hs x hx y hy heq
          · exact absurd heq (hnew x hx)
        · rcases (mem_insert hinsert).mp hy with hy | rfl
          · exact absurd heq.symm (hnew y hy)
          · rfl
      · intro x hx y hy huser hxunused hyunused
        rcases (mem_insert hinsert).mp hx with hx | rfl
        · obtain ⟨x₀, hx₀, -, -, -, hkept⟩ := mem_useTokens hx
          obtain ⟨rfl, hother⟩ := hkept hxunused
          rcases (mem_insert hinsert).mp hy with hy | rfl
          · obtain ⟨y₀, hy₀, -, -, -, hkept'⟩ := mem_useTokens hy
            obtain ⟨rfl, -⟩ := hkept' hyunused
            exact hs.one_unused x₀ hx₀ y₀ hy₀ huser hxunused hyunused
          · exact absurd huser hother
        · rcases (mem_insert hinsert).mp hy with hy | rfl
          · obtain ⟨y₀, hy₀, -, -, -, hkept'⟩ := mem_useTokens hy
            obtain ⟨rfl, hother⟩ := hkept' hyunused
            exact absurd huser.symm hother
          · rfl

/-- **What a completed reset leaves**: the token is one of the user's and used, and no session of
the user that was there is left. -/
theorem consumeToken_some (h : consumeToken s tokenHash passwordHash now = (s', some userId)) :
    (∃ r ∈ s.resetTokens.rows, r.tokenHash = tokenHash ∧ r.usedAt = none) ∧ s' = { s with
        users := s.users.update userId (User.withPassword passwordHash)
        resetTokens := useTokens s userId now
        sessions := s.sessions.updateWhere (fun m ↦ m.userId = userId ∧ m.revokedAt = none)
          (Session.revoke now) } ∧
      ∃ r ∈ (useTokens s userId now).rows, r.tokenHash = tokenHash ∧ r.usedAt ≠ none := by
  rw [consumeToken] at h
  split at h
  case h_1 => cases h
  case h_2 reset hreset =>
    obtain ⟨rfl, hsome⟩ := Prod.mk.inj h
    obtain rfl := Option.some_inj.mp hsome
    have hmem := mem_of_find?_eq_some hreset
    have hfound := find?_some hreset
    simp only [decide_eq_true_eq] at hfound
    refine ⟨⟨reset, hmem, hfound.1, hfound.2.1⟩, rfl, ResetToken.use now reset, ?_, hfound.1, ?_⟩
    · exact Table.mem_updateWhere.mpr ⟨reset, hmem, if_pos ⟨rfl, hfound.2.1⟩⟩
    · simp [ResetToken.use]

theorem consumeToken_advance : Advance env s (consumeToken s tokenHash passwordHash now).1 := by
  cases h : usableToken s tokenHash now with
  | none =>
    rw [consumeToken, h]
    exact .of_eq le_rfl rfl rfl rfl
  | some reset =>
    rw [consumeToken, h]
    refine ⟨le_rfl, fun id u hu ↦ ?_, .revoked rfl, fun x hx hused ↦ useTokens_spent hx hused,
      fun hs ↦ ⟨useTokens_distinct hs, ?_⟩⟩
    · rw [find?_update, hu]
      refine ⟨_, rfl, ?_⟩
      split
      · exact ⟨rfl, .inl⟩
      · exact ⟨rfl, .inl⟩
    · intro x hx y hy huser hxunused hyunused
      obtain ⟨x₀, hx₀, -, -, -, hkept⟩ := mem_useTokens hx
      obtain ⟨y₀, hy₀, -, -, -, hkept'⟩ := mem_useTokens hy
      obtain ⟨rfl, -⟩ := hkept hxunused
      obtain ⟨rfl, -⟩ := hkept' hyunused
      exact hs.one_unused x₀ hx₀ y₀ hy₀ huser hxunused hyunused

/-! ### What a change of access does -/

theorem createUser_advance {input : CreateUserInput} (h : createUser env s input = .ok s') :
    Advance env s s' := by
  simp only [createUser, eq_ok] at h
  obtain ⟨-, -, -, -, users, hinsert, rfl⟩ := h
  refine ⟨le_rfl, fun id u hu ↦ ?_, .of_eq rfl, .of_eq rfl⟩
  exact ⟨u, find?_insert_of_some hinsert hu, rfl, .inl⟩

theorem revokeSessionsOf_revoked {m : Session}
    (hm : m ∈ (revokeSessionsOf s tenantId userId).rows) (huser : m.userId = userId)
    (htenant : m.tenantId = tenantId) : m.revokedAt ≠ none := by
  obtain ⟨m₀, -, hwritten⟩ := Table.mem_updateWhere.mp hm
  split at hwritten
  · rw [← hwritten]
    simp [Session.revoke]
  case isFalse hkept =>
    intro hnone
    rw [hwritten] at hkept
    exact hkept ⟨huser, htenant, hnone⟩

theorem targetUser_eq_ok {u : User} (h : targetUser s tenantId userId = .ok u) :
    s.users.find? userId = some u ∧ u.tenantId = tenantId := by
  simp only [targetUser, eq_ok] at h
  obtain ⟨target, htarget, -, htenant, -, -, rfl⟩ := h
  exact ⟨htarget, htenant⟩

/-- **Access that is given back** goes with the sessions of the user revoked. -/
theorem updateUser_advance {input : UpdateUserInput} (h : updateUser s input = .ok s') :
    Advance env s s' := by
  simp only [updateUser, eq_ok] at h
  obtain ⟨-, -, target, htarget, -, -, rfl⟩ := h
  obtain ⟨hfound, htenant⟩ := targetUser_eq_ok htarget
  refine ⟨le_rfl, fun id u hu ↦ ?_, .revoked rfl, .of_eq rfl⟩
  show ∃ u', (s.users.update input.userId _).find? id = some u' ∧ _
  rw [find?_update, hu]
  refine ⟨_, rfl, ?_⟩
  split
  case isTrue hid =>
    subst hid
    obtain rfl := Option.some_inj.mp (hu.symm.trans hfound)
    exact ⟨rfl, fun _ ↦ .inr fun m hm huser hsame ↦
      revokeSessionsOf_revoked hm huser (hsame.trans htenant)⟩
  case isFalse => exact ⟨rfl, .inl⟩

theorem retireUser_eq_ok {input : RetireUserInput} (h : retireUser s input = .ok s') :
    (∃ u, s'.users.find? input.userId = some u ∧ u.accessRevokedAt ≠ none) ∧ Advance env s s' := by
  simp only [retireUser, eq_ok] at h
  obtain ⟨-, -, target, htarget, -, -, rfl⟩ := h
  obtain ⟨hfound, -⟩ := targetUser_eq_ok htarget
  constructor
  · show ∃ u, (s.users.update input.userId _).find? input.userId = some u ∧ _
    rw [find?_update_self, hfound]
    exact ⟨_, rfl, by simp [User.retire]⟩
  · refine ⟨le_rfl, fun id u hu ↦ ?_, .revoked rfl, .of_eq rfl⟩
    show ∃ u', (s.users.update input.userId _).find? id = some u' ∧ _
    rw [find?_update, hu]
    refine ⟨_, rfl, ?_⟩
    split
    · exact ⟨rfl, fun _ ↦ .inl (by simp [User.retire])⟩
    · exact ⟨rfl, .inl⟩

/-! ### What lasts -/

/-- **What holds of the store lasts.** -/
theorem AuthStore.Sound.advance (hs : s.Sound env) (h : Advance env s s') : s'.Sound env where
  drawn := by
    intro m' hm'
    rcases h.sessions.hashes m' hm' with ⟨m, hm, -, hhash⟩ | ⟨k, -, hk, hhash⟩
    · obtain ⟨k, hk, hdrawn⟩ := hs.drawn m hm
      exact ⟨k, hk.trans_le h.drawn, hhash.symm.trans hdrawn⟩
    · exact ⟨k, hk, hhash⟩
  distinct := h.sessions.distinct hs.distinct
  owners := by
    intro m' hm'
    rcases h.sessions.owners m' hm' with ⟨m, hm, huser, htenant⟩ | howner
    · obtain ⟨u, hu, hsame⟩ := hs.owners m hm
      obtain ⟨u', hu', hsame', -⟩ := h.users m.userId u hu
      exact ⟨u', huser ▸ hu', hsame'.trans (hsame.trans htenant)⟩
    · exact howner
  resets := h.resets.sound hs.resets

def Burnt (env : AuthEnv) (s : AuthStore) (token : Token) : Prop :=
  (∃ k < s.drawn, env.hashToken token = env.hashToken (env.randomBytes k)) ∧
    ∀ m ∈ s.sessions.rows, m.tokenHash ≠ env.hashToken token

/-- **A burnt token stays burnt**, as no draw comes twice. -/
theorem Burnt.advance (hdraws : Function.Injective env.randomBytes)
    (hhash : Function.Injective env.hashToken) (hburnt : Burnt env s token)
    (h : Advance env s s') : Burnt env s' token := by
  obtain ⟨⟨k, hk, hdrawn⟩, hnone⟩ := hburnt
  refine ⟨⟨k, hk.trans_le h.drawn, hdrawn⟩, fun m' hm' heq ↦ ?_⟩
  rcases h.sessions.hashes m' hm' with ⟨m, hm, -, hsame⟩ | ⟨k', hk', -, hnew⟩
  · exact hnone m hm (hsame.trans heq)
  · have hsame : env.randomBytes k' = env.randomBytes k :=
      hhash (hnew.symm.trans (heq.trans hdrawn))
    have : k' = k := hdraws hsame
    omega

def Spent (env : AuthEnv) (s : AuthStore) (token : Token) : Prop :=
  ∃ r ∈ s.resetTokens.rows, r.tokenHash = env.hashToken token ∧ r.usedAt ≠ none

theorem Spent.advance (hspent : Spent env s token) (h : Advance env s s') : Spent env s' token := by
  obtain ⟨r, hr, hhash, hused⟩ := hspent
  obtain ⟨r', hr', hsame, hused'⟩ := h.resets.spent r hr hused
  exact ⟨r', hr', hsame.trans hhash, hused'⟩

def AuthStore.Retired (s : AuthStore) (userId : Uuid) : Prop :=
  ∃ u, s.users.find? userId = some u ∧ u.accessRevokedAt ≠ none

def Barred (s : AuthStore) (sessionId : Uuid) : Prop :=
  ∃ m, s.sessions.find? sessionId = some m ∧ (m.revokedAt ≠ none ∨ s.Retired m.userId)

/-- **What is barred stays barred.** -/
theorem Barred.advance (hbarred : Barred s sessionId) (hs : s.Sound env) (h : Advance env s s') :
    Barred s' sessionId := by
  obtain ⟨m, hm, hwhy⟩ := hbarred
  obtain ⟨m', hm', huser, htenant, hrevoked⟩ := h.sessions.kept sessionId m hm
  refine ⟨m', hm', ?_⟩
  rcases hwhy with hwhy | ⟨u, hu, hretired⟩
  · exact .inl (hrevoked hwhy)
  · obtain ⟨u', hu', -, hstays⟩ := h.users m.userId u hu
    rcases hstays hretired with hretired' | hswept
    · exact .inr ⟨u', huser ▸ hu', hretired'⟩
    -- access is given back: the session is the user's, and of the user's tenant
    · obtain ⟨u₀, hu₀, hsame⟩ := hs.owners m (mem_of_find? hm)
      obtain rfl := Option.some_inj.mp (hu.symm.trans hu₀)
      exact .inl (hswept m' (mem_of_find? hm') huser (htenant.trans hsame.symm))

theorem findActiveSession_eq_some {principal : SessionIdentity}
    (h : findActiveSession s tokenHash now = some principal) :
    ∃ m ∈ s.sessions.rows, m.id = principal.sessionId ∧ m.tokenHash = tokenHash ∧
      m.revokedAt = none ∧ ∃ u, s.users.find? m.userId = some u ∧ u.accessRevokedAt = none := by
  obtain ⟨m, hm, hactive⟩ := exists_of_findSome?_eq_some h
  rw [Session.active] at hactive
  split at hactive
  case h_1 u hu =>
    split at hactive
    case isTrue hcond =>
      obtain rfl := Option.some_inj.mp hactive
      exact ⟨m, hm, rfl, hcond.2.1, hcond.2.2.1, u, hu, hcond.2.2.2.2⟩
    case isFalse => cases hactive
  case h_2 => cases hactive

/-- Some token authenticates a request as the session's, at some time. -/
def Authenticates (env : AuthEnv) (s : AuthStore) (sessionId : Uuid) : Prop :=
  ∃ token now principal, findActiveSession s (env.hashToken token) now = some principal ∧
    principal.sessionId = sessionId

theorem Barred.not_authenticates (hbarred : Barred s sessionId) :
    ¬Authenticates env s sessionId := by
  rintro ⟨token, now, principal, hactive, hsession⟩
  obtain ⟨m, hm, hid, -, hrevoked, u, hu, haccess⟩ := findActiveSession_eq_some hactive
  obtain ⟨m', hm', hwhy⟩ := hbarred
  have hfind := find?_key_of_mem hm
  rw [show Keyed.key m = sessionId from hid.trans hsession, hm'] at hfind
  obtain rfl := Option.some_inj.mp hfind
  rcases hwhy with hwhy | ⟨u', hu', hretired⟩
  · exact hwhy hrevoked
  · obtain rfl := Option.some_inj.mp (hu'.symm.trans hu)
    exact hretired haccess

end UInventario.Auth
