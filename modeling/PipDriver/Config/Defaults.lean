import PipDriver.Config.Basic
import PipDriver.Request.Install
import PipDriver.Request.Uninstall

/-!
Filling what a request leaves open from a configuration. What the request says stays, even where it is
empty.
-/

namespace PipDriver

/-- The settings fill the program only where the older name for it is not given either, and the package
index only where it is not switched off. -/
def InstallRequest.withDefaults (request : InstallRequest) (config : Config) : InstallRequest :=
  { request with
    program := if request.environment.isNone then request.program.or config.program else request.program
    user := request.user.or config.user
    folder := request.folder.or config.folder
    timeout := request.timeout.or config.timeout
    proxy := request.proxy.or config.proxy
    indexUrl := if request.noIndex then request.indexUrl else request.indexUrl.or config.indexUrl }

def UninstallRequest.withDefaults (request : UninstallRequest) (config : Config) : UninstallRequest :=
  { request with
    program := request.program.or config.program
    user := request.user.or config.user
    folder := request.folder.or config.folder
    timeout := request.timeout.or config.timeout
    proxy := request.proxy.or config.proxy }

end PipDriver
