import AccreditationBackend.Documents.Service
import AccreditationBackend.Foundation.Mediation
import AccreditationBackend.Iam.Guards
import AccreditationBackend.Iam.Operations
import AccreditationBackend.System.Operations

/-! The accounts, the database and the documents as one store, of which each is a part. -/

set_option autoImplicit false

namespace AccreditationBackend

open Foundation

/-- Accounts and database both know the profiles of the requesters; no route that
follows creates one. -/
structure Site where
  accounts : Accounts
  db : Database
  documents : Documents

inductive SiteStatement where
  | account (stmt : AccountStatement)
  | database (stmt : Statement)
  | document (stmt : DocumentStatement)

abbrev SiteStatement.Reply : SiteStatement → Type
  | .account stmt => stmt.Reply
  | .database stmt => stmt.Reply
  | .document stmt => stmt.Reply

abbrev siteStore : Interface := ⟨SiteStatement, SiteStatement.Reply⟩

/-- What leaves a route in place of an answer. -/
inductive HttpFailure where
  | auth (why : AuthFailure)
  | failed (why : Failure)
  | forbidden (why : ForbiddenException)
  /-- A handler read a user that no guard has set. -/
  | typeError
  deriving DecidableEq, Repr

def handleSite : Handler siteStore Site HttpFailure
  | .account stmt, site => inPart (fun accounts => { site with accounts }) .auth (handleAccount stmt site.accounts)
  | .database stmt, site => inPart (fun db => { site with db }) .failed (handle stmt site.db)
  | .document stmt, site =>
      inPart (fun documents => { site with documents }) .failed (handleDocument stmt site.documents)

/-! ## The parts -/

def accountsPart : Part handleSite handleAccount where
  stmt := .account
  reply _ answer := answer
  look := Site.accounts
  wrap := .auth
  replied answered := by
    obtain ⟨accounts, handled, rfl⟩ := inPart_ok.mp answered
    exact handled
  failed := inPart_error.mp

def databasePart : Part handleSite handle where
  stmt := .database
  reply _ answer := answer
  look := Site.db
  wrap := .failed
  replied answered := by
    obtain ⟨db, handled, rfl⟩ := inPart_ok.mp answered
    exact handled
  failed := inPart_error.mp

def documentsPart : Part handleSite handleDocument where
  stmt := .document
  reply _ answer := answer
  look := Site.documents
  wrap := .failed
  replied answered := by
    obtain ⟨documents, handled, rfl⟩ := inPart_ok.mp answered
    exact handled
  failed := inPart_error.mp

/-! ## What a statement leaves alone -/

section After

variable (site : Site)

theorem after_account (stmt : AccountStatement) :
    handleSite.after (.account stmt) site = { site with accounts := handleAccount.after stmt site.accounts } := by
  cases replied : handleAccount stmt site.accounts with
  | ok both =>
      rw [handleAccount.after_ok replied]
      exact handleSite.after_ok (inPart_ok.mpr ⟨both.2, replied, rfl⟩)
  | error why =>
      rw [handleAccount.after_error replied]
      exact handleSite.after_error (inPart_error.mpr ⟨why, replied, rfl⟩)

theorem after_database (stmt : Statement) :
    handleSite.after (.database stmt) site = { site with db := handle.after stmt site.db } := by
  cases replied : handle stmt site.db with
  | ok both =>
      rw [handle.after_ok replied]
      exact handleSite.after_ok (inPart_ok.mpr ⟨both.2, replied, rfl⟩)
  | error why =>
      rw [handle.after_error replied]
      exact handleSite.after_error (inPart_error.mpr ⟨why, replied, rfl⟩)

theorem after_document (stmt : DocumentStatement) :
    handleSite.after (.document stmt) site = { site with documents := handleDocument.after stmt site.documents } := by
  cases replied : handleDocument stmt site.documents with
  | ok both =>
      rw [handleDocument.after_ok replied]
      exact handleSite.after_ok (inPart_ok.mpr ⟨both.2, replied, rfl⟩)
  | error why =>
      rw [handleDocument.after_error replied]
      exact handleSite.after_error (inPart_error.mpr ⟨why, replied, rfl⟩)

end After

abbrev SiteOp (A : Type) := Proc siteStore Site HttpFailure A

end AccreditationBackend
