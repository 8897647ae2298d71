import Xiu.Common.Text

/-! Authentication of publishers and players, of `library/common/src/auth.rs`.  The digest of a text
is a parameter. -/

namespace Xiu.Common

inductive AuthAlgorithm where
  | simple
  | md5
  deriving DecidableEq

inductive SecretCarrier where
  | query (query : String)
  | bearer (header : String)
  deriving DecidableEq

inductive AuthErrorValue where
  | tokenIsNotCorrect
  | noTokenFound
  | invalidTokenFormat
  deriving DecidableEq

/-- `get_secret`: the token of a query, or the word after `Bearer`. -/
def getSecret : SecretCarrier → Except AuthErrorValue String
  | .query query =>
    match (queryPairs query).lookup "token" with
    | some token => .ok token
    | none => .error .noTokenFound
  | .bearer header =>
    match scanf header.toList ' ' with
    | (some pre, some token) =>
      if String.ofList pre ≠ "Bearer" then .error .invalidTokenFormat
      else .ok (String.ofList token)
    | _ => .error .invalidTokenFormat

inductive AuthType where
  | pull
  | push
  | both
  | none
  deriving DecidableEq

structure Auth where
  algorithm : AuthAlgorithm
  key : String
  password : String
  pushPassword : Option String
  authType : AuthType
  deriving DecidableEq

namespace Auth

variable (auth : Auth) (digest : String → String)

/-- The password for players or for publishers. -/
def passwordFor (isPull : Bool) : String :=
  if isPull then auth.password else auth.pushPassword.getD auth.password

def check (streamName authStr : String) (isPull : Bool) : Bool :=
  match auth.algorithm with
  | .simple => auth.passwordFor isPull = authStr
  | .md5 => authStr = digest (auth.key ++ streamName)

def authenticate (streamName : String) (secret : Option SecretCarrier) (isPull : Bool) :
    Except AuthErrorValue Unit :=
  if auth.authType = .both ∨ (isPull ∧ auth.authType = .pull) ∨
      (¬isPull ∧ auth.authType = .push) then
    match secret with
    | none => .error .noTokenFound
    | some carrier =>
      match getSecret carrier with
      | .error e => .error e
      | .ok token =>
        if auth.check digest streamName token isPull then .ok () else .error .tokenIsNotCorrect
  else
    .ok ()

/-- `if let Some(auth) = &self.auth { auth.authenticate(..)? }`. -/
def admits (auth : Option Auth) (streamName : String) (secret : Option SecretCarrier)
    (isPull : Bool) : Bool :=
  match auth with
  | some auth => (auth.authenticate digest streamName secret isPull).isOk
  | none => true

theorem authenticate_of_admits {digest : String → String} {auth : Auth} {streamName : String}
    {secret : Option SecretCarrier} {isPull : Bool}
    (h : admits digest (some auth) streamName secret isPull = true) :
    auth.authenticate digest streamName secret isPull = .ok () := by
  simp only [admits] at h
  cases hResult : auth.authenticate digest streamName secret isPull with
  | ok u => rfl
  | error e =>
    rw [hResult] at h
    cases h

/-- With authentication for publishers and players, what is let through has the password, or the
digest of the key followed by the name. -/
theorem authenticate_both {auth : Auth} {digest : String → String} {streamName : String}
    {secret : Option SecretCarrier} {isPull : Bool} (hBoth : auth.authType = .both)
    (h : auth.authenticate digest streamName secret isPull = .ok ()) :
    ∃ carrier token, secret = some carrier ∧ getSecret carrier = .ok token ∧
      match auth.algorithm with
      | .simple => token = auth.passwordFor isPull
      | .md5 => token = digest (auth.key ++ streamName) := by
  simp only [authenticate, if_pos (Or.inl hBoth)] at h
  cases secret with
  | none => cases h
  | some carrier =>
    dsimp only at h
    cases hSecret : getSecret carrier with
    | error e =>
      rw [hSecret] at h
      cases h
    | ok token =>
      rw [hSecret] at h
      dsimp only at h
      split at h
      · rename_i hCheck
        refine ⟨carrier, token, rfl, hSecret, ?_⟩
        simp only [check] at hCheck
        cases hAlgorithm : auth.algorithm <;> simp_all
      · cases h

end Auth

end Xiu.Common
