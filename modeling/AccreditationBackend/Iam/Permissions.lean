import AccreditationBackend.Iam.Rows

/-! The permission catalogue. -/

set_option autoImplicit false

namespace AccreditationBackend

inductive Permission where
  | usersManage | competitionsManage | competitionsRead | mediaManage | mediaRead
  | requestsReadAny | requestsReadOwn | requestsWriteOwn | requestsComplementRequest | requestsValidate
  | requestsAttribute | accreditationsGenerate | accreditationsRevoke | scanPerform | scanRead
  | dashboardRead | exportData | auditRead
  deriving DecidableEq, Repr

def Permission.value : Permission → String
  | .usersManage => "users:manage"
  | .competitionsManage => "competitions:manage"
  | .competitionsRead => "competitions:read"
  | .mediaManage => "media:manage"
  | .mediaRead => "media:read"
  | .requestsReadAny => "requests:read:any"
  | .requestsReadOwn => "requests:read:own"
  | .requestsWriteOwn => "requests:write:own"
  | .requestsComplementRequest => "requests:complement:request"
  | .requestsValidate => "requests:validate"
  | .requestsAttribute => "requests:attribute"
  | .accreditationsGenerate => "accreditations:generate"
  | .accreditationsRevoke => "accreditations:revoke"
  | .scanPerform => "scan:perform"
  | .scanRead => "scan:read"
  | .dashboardRead => "dashboard:read"
  | .exportData => "export:data"
  | .auditRead => "audit:read"

def allPermissions : List Permission :=
  [.usersManage, .competitionsManage, .competitionsRead, .mediaManage, .mediaRead,
    .requestsReadAny, .requestsReadOwn, .requestsWriteOwn, .requestsComplementRequest,
    .requestsValidate, .requestsAttribute, .accreditationsGenerate, .accreditationsRevoke,
    .scanPerform, .scanRead, .dashboardRead, .exportData, .auditRead]

def rolePermissions : StaffRole → List Permission
  | .admin => allPermissions
  | .responsableAccreditation =>
      [.competitionsManage, .competitionsRead, .mediaManage, .mediaRead, .requestsReadAny,
        .requestsComplementRequest, .requestsValidate, .requestsAttribute,
        .accreditationsGenerate, .accreditationsRevoke, .scanRead, .dashboardRead, .exportData,
        .auditRead]
  | .commissionValidation =>
      [.competitionsRead, .mediaRead, .requestsReadAny, .requestsComplementRequest,
        .requestsValidate, .requestsAttribute, .accreditationsGenerate, .dashboardRead,
        .exportData, .auditRead]
  | .agentControle => [.scanPerform, .scanRead, .dashboardRead]
  | .superviseur =>
      [.competitionsRead, .mediaRead, .requestsReadAny, .scanRead, .dashboardRead, .exportData, .auditRead]

/-- A user without a role is a requester. -/
def permissionsForRole : Option StaffRole → List Permission
  | none => [.requestsReadOwn, .requestsWriteOwn]
  | some role => rolePermissions role

end AccreditationBackend
