import PipDriver.Text

/-!
What can be wrong with a request, with the option concerned, the offending text and the reason given.
-/

namespace PipDriver

inductive AddressOption
  | findLinks
  | indexUrl
  | extraIndexUrl
deriving DecidableEq, Repr

def AddressOption.name : AddressOption → Text
  | .findLinks => "find_links"
  | .indexUrl => "index_url"
  | .extraIndexUrl => "extra_index_url"

inductive Complaint
  | nothingToInstall
  | nothingToRemove
  | namelessEditable (entry : Text)
  | badTimeout (given : Text)
  | badAddress (option : AddressOption) (given : Text)
  | indexDisabled (given : Text)
  | badMirror (given : Text)
  | unknownAction (given : Text)
deriving DecidableEq, Repr

namespace Complaint

def field : Complaint → Text
  | .nothingToInstall => "pkgs"
  | .nothingToRemove => "pkgs"
  | .namelessEditable _ => "editable"
  | .badTimeout _ => "timeout"
  | .badAddress option _ => option.name
  | .indexDisabled _ => "no_index"
  | .badMirror _ => "mirrors"
  | .unknownAction _ => "exists_action"

def value : Complaint → Text
  | .nothingToInstall => []
  | .nothingToRemove => []
  | .namelessEditable entry => entry
  | .badTimeout given => given
  | .badAddress _ given => given
  | .indexDisabled given => given
  | .badMirror given => given
  | .unknownAction given => given

def reason : Complaint → Text
  | .nothingToInstall => "at least one of pkgs, requirements or editable is required"
  | .nothingToRemove => "at least one of pkgs or requirements is required"
  | .namelessEditable _ => "editable entry missing an egg name (#egg=<name>)"
  | .badTimeout _ => "not a valid integer base 10"
  | .badAddress _ _ => "must be a valid URL (http, https, ftp)"
  | .indexDisabled _ => "'no_index' and ('index_url' or 'extra_index_url') are mutually exclusive"
  | .badMirror _ => "mirror URLs must use http://"
  | .unknownAction _ => "expected one of (s)witch, (i)gnore, (w)ipe, (b)ackup"

def message (complaint : Complaint) : Text :=
  "Invalid " ++ complaint.field ++ " '" ++ complaint.value ++ "': " ++ complaint.reason

end Complaint

end PipDriver
