import ControllerCompanion.Generator.ViewsClass
import ControllerCompanion.Proofs.ViewTree

set_option autoImplicit false

/-! # Views in another order

The class of some views depends on which views lie in each folder and on the order in which the
folders of a folder come up first, and on nothing else of the list: how the views of different
folders follow one another cannot be seen in it (`viewsClass_eq_of_sameFolders`). -/

namespace ControllerCompanion.Generator

/-- **The views class does not depend on how folders are interleaved.** Two lists of views give the
same class and the same warnings in the same order, if at each path the same views lie in the same
order, and the folders there come up first in the same order. -/
theorem viewsClass_eq_of_sameFolders {views views' : List View}
    (h : ViewTree.SameFolders views views') : viewsClass views = viewsClass views' := by
  have htree : ViewTree.ofViews views = ViewTree.ofViews views' :=
    (ViewTree.ofViews_eq_iff views views').2 h
  rw [viewsClass, viewsClass, htree]

/-- A page of a shop. -/
def shopPage (folders : List String) (name : String) : View :=
  ⟨name, "", ⟨["Pages", "Page.cshtml"], by decide +kernel⟩, "/" ++ name, true, none, folders⟩

/-- Pages of a shop. One page has the name of a folder, and two folders ask for one field. -/
def shopPages : List View :=
  [shopPage ["Cart", "Pay"] "Index", shopPage ["My-Orders"] "List", shopPage ["Cart"] "Index",
    shopPage [] "Cart", shopPage ["My_Orders"] "Edit", shopPage ["Cart", "Pay"] "Done"]

/-- The same pages, folder by folder. -/
def shopPagesByFolder : List View :=
  [shopPage ["Cart", "Pay"] "Index", shopPage ["Cart", "Pay"] "Done", shopPage ["Cart"] "Index",
    shopPage ["My-Orders"] "List", shopPage ["My_Orders"] "Edit", shopPage [] "Cart"]

theorem viewsClass_shopPagesByFolder :
    shopPages ≠ shopPagesByFolder ∧ ViewTree.SameFolders shopPages shopPagesByFolder
      ∧ viewsClass shopPages = viewsClass shopPagesByFolder := by
  have hsame : ViewTree.SameFolders shopPages shopPagesByFolder := by decide +kernel
  exact ⟨by decide +kernel, hsame, viewsClass_eq_of_sameFolders hsame⟩

end ControllerCompanion.Generator
