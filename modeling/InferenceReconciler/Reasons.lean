/-!
# Reasons

The words by which a condition says why it has its value.
-/

namespace InferenceReconciler.Reason

def configResolved : String := "ConfigResolved"
def configNotFound : String := "ConfigNotFound"
def invalidSpec : String := "InvalidSpec"

def invalidImageReference : String := "InvalidImageReference"
def modelNotFound : String := "ModelNotFound"
def creatingModel : String := "CreatingModel"
def modelNotReady : String := "ModelNotReady"
def modelResolved : String := "ModelResolved"
def multipleModelsFound : String := "MultipleModelsFound"

def templateNotFound : String := "TemplateNotFound"
def templateSelectionFailed : String := "TemplateSelectionFailed"
def templateNotReady : String := "TemplateNotReady"
def resolved : String := "Resolved"
def validationFailed : String := "ValidationFailed"
def templateSelectionAmbiguous : String := "TemplateSelectionAmbiguous"
def creatingDerivedTemplate : String := "CreatingDerivedTemplate"

def cacheCreating : String := "CacheCreating"
def cacheNotReady : String := "CacheNotReady"
def cacheReady : String := "CacheReady"
def cacheRetrying : String := "CacheRetrying"
def cacheFailed : String := "CacheFailed"

def creatingClaim : String := "CreatingPVC"
def claimNotBound : String := "PVCNotBound"
def storageReady : String := "StorageReady"
def storageSizeUnknown : String := "StorageSizeUnknown"

def waitingForDependencies : String := "WaitingForDependencies"
def creatingRuntime : String := "CreatingRuntime"
def runtimeReady : String := "RuntimeReady"
def runtimeFailed : String := "RuntimeFailed"
def imagePullAuthFailure : String := "ImagePullAuthFailure"
def imageNotFound : String := "ImageNotFound"
def imagePullFailed : String := "ImagePullFailed"

def configuringRoute : String := "ConfiguringRoute"
def routeReady : String := "RouteReady"
def routeFailed : String := "RouteFailed"
def pathTemplateInvalid : String := "PathTemplateInvalid"

end InferenceReconciler.Reason
