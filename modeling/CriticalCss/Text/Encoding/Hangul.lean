import CriticalCss.Text.Packed

/-!
# The EUC-KR table

The two-byte codes of EUC-KR extended to all of Hangul, by pointer: a lead
byte `l` from 0x81 to 0xFE and a trail byte `t` from 0x41 to 0xFE have the
pointer `(l - 0x81) * 190 + (t - 0x41)`. Pointers with no character hold
U+FFFD. The characters are stored delta coded and packed
(`CriticalCss.Text.undelta`, `CriticalCss.Text.unpack`): the syllables come in
order of code point, and pointers with no character in runs. The syllables
outside EUC-KR, at the lead bytes up to 0xC6 with trail bytes that are letters
or from 0x81 on (below 0xA1 for the lead bytes from 0xA1 on), are the Hangul
syllables that EUC-KR lacks, in order, and are stored without them
(`CriticalCss.Text.fillArea`).

## Main definitions

* `hangulTable`: the characters by pointer.
-/

namespace CriticalCss.Text

/-- The characters of the two-byte codes but the syllables outside EUC-KR, delta coded and
packed. -/
def hangulPacked : String :=
  String.join [
  "� ~0016M　!!·‥!¨〃­―Jp＼∼‘!$!sF!Do!~e04±EGEA≠%!D47°′!G=EI￠!%♂Dz∠FLF4Az&F Dm§※ULD|DA%D|DuD|DVD|4D|,D|→Dz!#!o6≪!D*EDD[9Dr!DW$FB!Dw!D!D|Dz!￢<~gH7⇒#EM$´～ˇ2&DyD|¸K(¡E?Jq∮D_Dz¤℉BVTmD|DsD|FvDx!%#Dx⊙N&DVEN!D<3!$D|D|$G,D!D|/#¶†!I-##Dy#ReDx!#h@Cs№|0™zz7℡Ca®~oMVB3!~e0rFsC,~eZTM;~fl7ㄱ!~0011U~hq8ⅰ~eLAⅠ~eaCΑ~eyC#~f5Aα~eVR~e06─#+%)Dx)1Dt1)D@#-%)Dx-1Dt11DP0Du0)DY4Dq4+DKD|*D|Dy~nI22!#!%!#!$~e15#~fc4!~vTY㎕!!ℓz_EMDZ!!~pZ8EID>!!EbD4!EaDZ!)~eP5DB~eV1W~eC2L!!!!Ωzt!DD!!ElDkDd!!EMDI!!!ERDo$Dl'4Df~gGNÆ+DUFC�Ĳ�Ŀ#CmFAC=EEFOD`�㉠~knNⓐ~ePLCL~eFA½⅓!¼#⅛~iMBæELDZEX+#&)#D1F!CbE@F0D`Dz㈀~fsN⒜~ePLD:~eFA¹Du!⁴,#~ftBぁ~0Ax1D~lnQァ~f1a~fkzА~i72h6~eraа~eK1=Da~ema~0015I가!$$!!!'~wk8$%)!#!!(!$%,#(%%5!$$!#'~eS1$!!!%~eV4!#$!~eA1%$%%*#*~ed1#$!!##!'!$%#~l28괌!##(%%*$!(~fZ2#(~eq5!!&~eq5-!(4*~eX2*~fz3!(!##(=~gA4#!%#!!#%#'~fz2!$%)~fh8깹~gW1(EQ!!#~hG5-$#(%%,!&$=!$##)!##!!&!(-!(!5(%%)!%(=!$%(~gC2)-~gg3$)%%)!,~eq1#&!!#~hQ9끝E@~",
  "hI4!!#~jJ2#~jI1#~jH9)&ED!~gx1&!#!!'~eSA!$!$%%9!$%#'!~fd1%%-EE%%)~qE9뇟*!$%*##(!$$!~fr15)=~gX1!()!%(!$%!!~id3%%5~fG5#~gU3!%~lk3%~g26EY~eS1#!&~fi9덧##$#~ea5%%-!(%9~li2%!####$%%55)%~kn1=~iA45)6(%%*~ld1)&(~kx5(=!$~mv3~lm1~fh8땀~iNAEa!$~ijF5EE!$%.()5=%EU~ko1&ED=~l41ED~fV3*~iJ1%~gF2~ew4!%~hU9래~k470#ED!$%)~fj8#(~hx6.#*~oz52<)%~pA6#(~hu6~i51$#(!$~kwB륫~eb5!$!E?~fX6#!!~kp3$~mr6!'!(.ED~l24!&~sZA!!#&=!#!%~jQ2%1!ED~fk8묀%*~rg5~oS5#%#!~eI1=%%5%%)$*%%)$EF~tj6##$!~tp3!&!##~rc2~rm4.EH~eg4~fj8벙!'!$$!~gW5*~uX29!!#~ig31)5)!$~kP19!$~gH5!#)-)=~lM1%~ix6#EF~hx5!&!$~fi8빨#'~r9C0EI~g11$!!(6(!0!#!!~lL3%Ea=6(~kR2F!6~tp1EH~k45#!~sy5~hj6(~fm8샥~wy5)&(~iW2~oV3&~qb6~qk7.(~wh4#%$~hT5!~ql3~m16$!)~vQB숯#!#~ih2&(~ed5(~iR3~yN1~pi2(!~tV2#!%)!$~iG4$!=~mw4$!(%%EU9~kq3%(!$1)5)~rz9쐴)!,=~if2~vK1EN(!$%#&!~r71-~gh6!!~kE1~if1!~ht9$&~nW5,!$~p63!!!~yuC에~ys7~tb1~wJ3!%~fD1)!$%~op2~zt1$~0ND0D~sTA#~xr6~zE4~kt9웩~hL2~eqB~fM1'#!##!~e02~qE1!$%~hT4!%~sI2#'~hA3~g76##)&(~zY3~fh8점!##!'~ug5~gE2=~p96%!!(*##(5!(~wW52~h375)~zB3",
  "*~jt7ED~rqG징~jb1$##$&~nzB2~xH6(6(5EE~hs6(-)5)~q31A(~lp4!ED==1$#~qn4!&!~hc1~fmA찼~i88%##)&ED~iO7~th5%2(~i66.ED~hi31-~yk6%9%~rL8$%~q9C치~ue1(~lkB~fi35~iM2~fwB~eT3=~el8&(6()5=~gI7(6(!$~q79큄~ez3-~ur3D~nZ8(~jYA6~rY4~huC9~eC3&#%9=%0#~gA65~0hY1G퉤~ss4~0Tl0D*%%)!,~rd9~xVC!EX~eB6~onA)*~wY5~0kL1Y퐈6ED%9~0fI0A~qA16ED~0Qa09~lM3EF~kH7&$!##~kGG~miF%~0381Y혤*,~gM4~jd1,#(!$0#(!$~0UH0B$%&$$~pp6.~gh9$~0WN08(~f51%~wz8~0qX4c伽EWGAFzIaHcFMF7H7RGGcdgHB!EYNT^'J`Qd^PEJT.ERIhL=GuH?GXb8刻HLFWi9GhcG[ykk^Q9gX侃L2X'G'F5Qv(NEJXO#FnFZY1X*G*JIH&GeH5QfJ0$^+d=乫YKwAYVc_KO`lRD@ tO勘Q`GISWOqFgF*N8KuKyOuXqFcHCG:Tf邯O?!f$~07T1Y匣a,甲g0wLNO剛U.J3LqF=IYFJ1K2e#_s-YtFZE`J:J'G:NhOMJ9[FNHV 介EMH'JEW+_?(EKOoR@S]WbGNErR@Y7K+豈鎧JC喀VI坑更粳MWy/倨O0^;I]RzFdI%.`6L7^a距Ec車遽J'F|乾F?I(l_GjJl]]腱Rs[XSdX)乞K8杰G=儉I=&檢~04B1Y瞼鈐j=劫lI迲偈wHKIGJNjKMSrxU]$jm堅牽EPK^^&GbKA_9JHS$jh抉b:M+mhJIe$兼rx箝r%YWHH京H:EmFhEjIu-FzP4H&V>GeJDEWMtFfGqEnEZI]S%MOF3OK'EFH!L>FGJR8KTEpL-EKGIL&[5OLGnOjPfEVK'IG係",
  "TmM8H*JrGPQ[HnVWF5~04L1Y棨UCWpH?K[I(LjI)2fnFaIWc>YO古&F(EHL4M(ILGDKvQ5KE/ENHAH!JrMM`<F[G[LmT0F6FfG[Hk8GaJ0KvFJJP賈辜O/O6IYKwQ$哭uIHkIVx>y*vk困F;U._LLV=VXS`袞鯤汨滑骨供J0&HA^gL<Kq>L/G#IMoUWohVV&e(串luVNTpk`~04G1Y科bKX'ELN-KlMNS0廓eP藿e)串冠bAEvTRZVKISCP&FqX<OLQ_V!M<`.NC刮n@L:适侊IyJ7U9V1[cW%NYK-H'Z9U!鑛卦t*罫乖K/[/F[YfGkIcXt魁宏紘O6of交K2OyGnT;L?EiY]EEM$K/^GOJHuTJLFIaOKIJ]/EmI5]DHfHj丘EN9F1H=I?I@~04I1Y區Fk#FqI?HuENPiIzH]N#GIL$KmERJAI>F=EGExKaJ:KeG,F4OYEKL8MZL5JR*&GBT_M!J(J#HeFhImEtY5F:LOG[J$國Sk菊鞠,Y!君窘SA`2UvJt堀Q1Yj窟宮N]穹EV[EhK倦JrG-FFO.gsFFZWLe`r厥獗yD_fYy机O&R<詭QHco句晷S6貴~04E1Y鬼龜叫N9K&chV]b8QDK|,K>Z6SOP'LnTN勻Q5畇V@]xnd龜橘克GnE^rAX,Fe隙僅J>Ebp<P$L@J%coX@Z-HEUHI@R'`v契今dcewHRQgaIT(E^_CUV!GM金錦伋RNi.KQbJuCEn亘Lv矜_*企.Kn+QEFSG@G,#H+ETEnK6G9FEGPFTHbL`NN-~04C1Y朞!EaI&DuITGHGVF &HXURFU%EzEBGB(MSF5Et'!ESJ|I$G'J-FEEHF&a/HJGgHBU+$U?F6G*!ExPq緊佶R!pBTA金喫儺喇!娜[/懶拏EQ癩!!!!!那樂!!!!諾酪!!!暖欄",
  "煖爛!難鸞捏EL南嵐枏J0SH濫男藍!!XK~03l1X納臘!衲囊NE廊!!!!乃來內[Fo`耐冷女S6VM秊念F>KbF|寧Dl努勞奴U6GV擄!!瑙盧~gx1駑魯!~e05濃籠!膿m_惱牢!腦賂!尿壘~eK3嫩訥杻紐勒~e91能菱!尼uD匿溺多茶~0721Y丹FDFWW5I#IiW]W.EPR)HHLCaCMSHBIz_DJ&^QK.撻e>OYKC達啖JVc]MlJRY3FAH%EnV_cBI3O Q+HWFZ[*沓^rV(|:KS唐MCExV1OBLBQ+ijYzds黨代^VDbIsM7FlI>HcLZLXp/nXW_Pqav]]宅PvGj倒JMEQRvH2ECOTEtF^F]H.GYH=KZF?FUPp~04Q1Y棹J(MhEkF|H#JzRnFeK=FQamU&N;GtEwIu2EaFrKUM|Hz毒PxKWElG3P>KbK*Lcj_墩])R.F_G.UOR Fs豚g@乭突仝L|EBGvHJlaUKGLFVQ(KdVhJVN)V6Ngn3兜斗J$EXnVS$^^讀豆Oo] 屯臀GGlmEOIW得?Cj5Z.RBR^d0SUVJ_a喇iB拏癩_t~04I1Y蘿I4HQZV樂洛O[MVa&XO諾酪^8丹亂S(欄/SbJ<蘭鸞剌辣嵐ZTEiUlRei+K_YJO4E|拉臘Vo廊]XV|TnGwF1螂`Y來lLL>萊冷xwxR亮HlHwF'梁IIzw$EWTd]oQ2L`侶I:IxHad?L-G=O$SJSY`)j+KLlORD)PqEX力曆R@R5_f轢[E憐F7MubI~0461Y煉N7`iL&Qic'GkMy冽F FS洌OY裂廉X,VSPWiO獵令Et[(寧岺GnKh玲Z:QVEUF?s'JvRQEtG=Yc例澧bP醴S8勞怒撈E^V6QuG'JWRg_rV,ExZRH",
  ")]8Q&L6FB碌GaPeVPq>f]5論壟VL]._WR7ZPPb儡瀨K?W5賂9;bL了KYeOM9X6hcQ^I$^NRA~04A1Y遼d@QO壘I!K&lwOeHHYEXhGvXZP^dAKm劉旒K&I|O*HoI,P=EyGgG8KL|@kQ六u]陸侖F]jhumrxwY律IsXF率隆勒肋凜Dl楞uYO?VZz^俚KTI(F>GmYqQ+WuHnRSSJF>H FD異痢WWM_EaOoT 3_B%SGRw吝潾KWLtwI^b[_U5KM林V[W5l|霖砬~04C1Y立EwI+摩sPIALvEM馬IbN_寞L!ugzUJojV万T XOOFI5JtJ:N#FZ[iEMHKYTibGTMzXKc MG唜lcQ[T[茉W.n 亡dyW !Y[網I[N5FaFYfBI4埋JMGFHQcFI,GXNATqn!kbEMO;dY脈fdafP7QN孟uOY OuDikL冪覓免EjHG棉Oic`=WmEN面Ym滅~04G1Y蔑冥KnF7wyFVL5TS]+G?fhIeM.anHBcK袂侮JCHaXZQaMjMu!K:H5KVIf/WQ#J?MHFk]GLPEk[aEIHx木TCUXQqF?M1鶩歿H&夢mp蒙卯SYGtT S%KkHRX:S&Zl[ftF務eMOa>EaG*JCHHNqJmF,T1M'Hz_@OvGQKnSoK cWVb墨默們J]K2H't~0ak1Z汶u/!NJVSpSI(勿沕UU味VNI^G|JaF)Z;IEFuRi)^wTEMmU|TcRyZ)ZR岷PBEyFfOAFt!V<GKX#EKbb閔密蜜P7剝GkqwHUFkL-MUL=XjGKXjGoI?NgFtNEcVY'Lt伴PYFJ/pNHtGAFXPvN!KpR$H|G;G/9J3ELERP^RvU5[Y]IGJ勃saJ0a!H~0nU1Z發跋P)Fy^=Ew倣F1X0KdL+K$HCLtMPFB)EjI;JqS[bLQEO&GCFsFOJMJJO;GZTkTh`[倍Db北培Z_N;G#O|",
  "XGM'U+bR/]%!EEOeKNK)SR伯EcocaWEunm!魄幡g0YyF2O3磻繁XvFn|s伐筏Pe閥凡hRdDO&1FTUU_mYX法Z$僻IFVahDU@bYIi~04E1Y碧l5ruHk便卞g*變Pb(GH別瞥鱉Lk丙JHI,e K Zg=ICGo[SQ7G1PGH'輧bBGU保]O1OcchS,IfI!GqQPHZovS(EXKNOU伏J%K@En]BPYZ#z[[OIpJDP6FFU4#cYKs本乶I;`NLdG[!WDTF]6FmL4bIX4Jv_xL[bk不G8H*F^J0:IqF1NGH_HN~04G1Y孚<EyM 復扶MREQ[,HJO._GH,MHJz!EkFnE|H#W'LHEh6F@EhN%GbQ)EIO2M`北AyK(KPKDFi;W_I_G7O?W;R+U-UDEwE_Tmb_by不佛rfF/N:崩b+J.rKUH鵬丕L/L'6EHVYGLPiK0GEG,EQMiJVK%K2#!!GM泌琵J$JxFFHW$LVH[JvG1~04G1Y脾FKK5MzJ-J0F|HcQGVmI6W-嚬QhQ+VGS]GjIgL@EEKMHd貧EMfI憑d;聘騁乍E`1E[F,#EeF'H3MD'H GJGfJpF>FwJ90+JNEYI'FKNBK94KL&FzLzH1E`H`JEN3RLHO#EAF(K-HAF!MfI@I:HVJUJxI*/G,IyFQKLGk]^GPRM削數朔索Wa~04H1X傘IKc6_IXfZ4HmFAV _]jUU9乷撒YAU%薩三參杉I_S_芟L$NJ揷fl鈒Wk上LX9ErPkF+F4S_GFG4HlEt7ECK6YxJpP:P($FGQ KsKQPg_wGoFFJMFDc-塞璽賽嗇塞穡LmT+牲LX'省笙墅F=RPG@EHGGG2KBGZJ-HWEjE@H1GIa1J=Y)J`F/IU~08S1Y胥H@O:OnH'TfLsgqEu夕EzROLZSnF&H0ROI.IS^EG#hJk$Ht仙JPFEQ%TcF`WrN.Eo]sNBL/E",
  "eEeEYIgN5PtFBHgJ1EZFMP$J1L4NfL@JyIMS^Kg卨_@k!NhF,Gp舌O,O=G`FDhn^.剡暹S.|d`fSD^'GG攝]xQN葉城JeJ8QeG@H)PREbjCG=M3EGQT~04Q1Y聖=Ga`8Xf世R[歲I_jhHGJV說貰召KHK'N[F #J0QGHVFXJyL1PLG9H:I)FLHANKF0D|FRS-G<EmGc:[XEcFbPqUZEvEvJbSuKF俗iie.VYplJLi^J`MZ孫L=V7蓀g#^6率宋SDXWW-訟FNT6[q刷殺灑]H鎖衰`e修P,K+GJFpI4J$G3H66HyM~0YA1Z戍E`HPF[H-EdRPHeFrGRJxLbGpFVFVFsI-HNKeF_FZJ.GC>G!HPIDJhHsElH#LWJzGMOEGxEcGVH=EDOp=!EOEKGvIGHPEi叔R9FcK]EqyEIBKJL-F`gSNp巡I`EDF`U+K+HqGQHIIfG+UrMmFvO>J&PRGgH7InF6S4F)X6IPRxIh戌術Z]K|崇E~0pL1Z嵩瑟k^UL濕拾習`bE^丞E[L:JUF1q;O%繩a?nk侍O)MoO2GFIM7D|IoH!HETUF94I5EWedRUHlWXR_EZRXG=$F?I-EF埴P#N2HtL)VGL4LrMzc=fePFOCb*E@伸EkF'R)U&IQT`Q^G%fvN.PoOsP_F]IoJrEEHHMXR0G^辰迅失KyEdR2審ECOUj7~04J1Y沈深JzSDlZ]R什Qk拾雙氏亞H9IGPORVLoS_t=tYGZNKHoJ#hOFMKSP9Ev堊R8GxFNLHEULxVHPg鄂KWS/O`N_安HBVyN=JXpQ雁G9G4NB斡謁OhXe唵Z3H@GL[Gr_lnxa壓b2sb鴨仰c-XTVST#nv鴦厓H@MTT.PHU<XLdtb:隘Ft厄pUH-bftMN8額~04E1Y櫻罌鶯F2也J;I4Z%[BMNSp_bmh若野弱掠!約Uc",
  "ICEnH=^Y亮佯兩!壤KeSKNyHQEwH>梁楊GFM9MGI$QOE]OCG*糧羊良襄諒讓VTRL量養圄^NVB`BXsOCv9pmIgPU億uMGH[b臆偃[RYOx0言Gh孼蘖俺HUTSL;cTc?嶪gJ円予G>勵!!如廬WH~03w1X旅歟Gl濾璵QJ礪與E`Gbh3E?閭餘驪!!亦力域ZYWh曆!疫_%jp轢逆cD嚥I;J0EHIN年延憐!捐Dg撚椽NAEYG<&F)H2漣烟EyED煉燃3璉硏EA秊筵Kt練縯聯衍W`輦!!鉛鍊鳶列!!悅jz烈熱裂!閱厭廉!!染殮炎FjMQnWF~20K1Z簾閻S`O5曄獵燁zb令!塋寧!嶸Is怜映F5M<EVL5G(HVGyFaEc5H4FVIJ玲瑛瑩瓔JSO#Q.羚!英Z.TI鈴鍈零霙靈!乂JG例刈J8曳TUNTN7Q_M4]WN&EF禮裔IHH-G[醴銳隸霓Gk五F@G)GVLAGdDqIaL3EzFuG J(RJ惡懊O)FqF,KHOPNP~03w1Y烏GJI`]6fmO9wvM&屋t-X4Eg鈺溫U;ItQ3OI[Z兀ZDh)t!EHHo`NupV`L2渦X3UD!YTS)FgLN婉HV0k%F&QLVnF1:QTT-JbH@E_KN^`b+JB曰往WGIHRqY:倭azwNiW外Q?F(猥K/了!僥H'V^GlF0EfJk寮!嶢SkHRFDF2料曜樂橈燎燿Kk療Vd~0491X窈EHO58I[I)蓼蟯IKIXSo遼邀_)慾aWKGuFeAWY俑GIGWHCS5G/N'MPL5]_P:GHEqM/LzG3%f(LqIJ`>TfEl龍于G0H8G LI$EIZSEnEsS+F/Q[i:HOFqL-L9EcEINDLcLzNAFP`bFLFvG",
  "cR*F*!勖ieWSEfJ^`*_1郁Yc云暈橒H`P5JXoFLKLF~08R1Y運VrF$Gw蔚鬱亐熊雄元KbHUK7D|FXMIEJGmQNH*La^BG HLE?O=H!H+o1U1X7H.阮院JURR月越Rd位GjF]L>O9LsENJhTBSUZ]PHJyaGM%NBEzGFK%GjG*JIT.Z5O 乳H1I:Ez劉唯FAURELM(!EcJAEaEJ!LgI-J0杻柔'柳楡!NNF5流游溜VY~04B1X濡NL!琉瑜GB留癒硫!維Q:K?R,J!Ee3N:3JhDpE^G<FGI_類!堉戮毓肉EJ陸!允]5Lz崙!潤Q,k]hP輪鈗Np律!!!聿戎mzklbo隆垠^|GKc`誾['Pu乙UG淫蔭w*I<Gi揖_e邑凝s;膺鷹依FDGSd1TNG^M>P]LlapKW[+LgN!KrF/K_~0841Y議Vc二E|EF利!夷Fy履已H<EbG3易!!!爾Ia理異F$痢移罹而EHEsKcF7裏!貽DrOr里!飴9匿!瀷Wa_W#EQeY人(N9I&吝咽K(MmJ)NGG%oX燐!絪UL藺蚓P=隣靭+鱗!一HnEE`yjf^o逸NpV0任b:FfEqW5林!稔臨荏`r入J>~03k1Y立!!仍O9_C芿仔N^KtSVEWHe(&S<GRlHJ-GBJxI*G+M^QSM+JDHQJNFzSZJ8bN作O;O`pLFDcCE^I6fjR`owTOX%孱l;L]P%Z#岑bd^bi,F=h9o^丈G<Q2SIFNEUFDLFK1EsFyQ@MxFlLuFKF0PwMX狀獐HNW!J&RaF.)I]GOG$F8E]M`PzR(O~1Cb1Z障再N3KeQrWkS8GZExU+F^Idljd5P#Knt7$爭``qA]X佇(JCNET+RTPdROJXFqLBI%RNEsL>V!I6U3H%F%IYQMKYJ7IKFgV=",
  "^B勣H:XJGN^GH0a!On炙的OgG;HEJPIZO9ZpIXFbFDFEID0F7N`佃EXHLG!1GB>Uy<GQLSEoL1IzINUeOIEkO~0KV1Z煎M#H#):H4RjEaEC:LuggR`,MGEvFVGwM Hs2F|切ssF5dV_cQOGdIp占`[J8u<I:gg霑QgNG接GB蝶丁F[9Ii:OqTVJ6LQF4ElFQHWK|JeEVEzFr#I?I#H4GGGJI9EIEXEaIzFJM>F6HPK&H?GuFDF9KFG=RHZ|GUInQy>FUFUF-EvP)Er~04K1Y靜FnY%制F!M<LSU|GpI&N;RoYIa1IyWoP0N:JZNCN@RgEXFjH!Xr俎I1FLGKO&_9EyQ(H6H/EzG&D|EEI9E[H9SME|JXFEEgL+L;K %FLEcF<JbEjF,H?JwTOFqOMF2M+GUIXEoI/QAFbV7族簇x9V7存Fz卒r0t9倧fQPJH%G(Z)S9W!V'MfF F]N~1HC1Z踪,T$Fb佐[fWdG.Qn罪主H'EbG8a&胄呪DzIONHKOKJGjZBGAG-EZRMElH+HVH=M|IaX8G#EKF=QgRKNWElM<H-FqGlH0%MCTh竹If俊HJG2V)PkGz`[P'MoHOHjH3QLTOk_[eEvW#N+茁中G2衆a*卽櫛@tM'葺增_GTK拯mYPxG#^<W3W_Iy之T|~04H1Y咫L01^HN 'I G-G&FYH67OLGlE[L=^kEbH7/O`O&F'G_Fr;QJNl識贄G'L`直MwE?PaK(唇G:LLdOGaK,#K'HAJHIZIESQFcEZG'F%H;E_F4KaPg5P N+N`I]LBJzG2FINsLb1F[侄QVU|GLNGc$iKGfPoFqY*T%V$GOK&斟I/什執潗o=w9~04I1Y鏶M 徵KBlW且I=FNOGJvZOFFkREel,L|茶蹉FHI^捉Gc着N;錯Hde&撰e:K<LnESUlHbKv?nJEk I)Z2R!E^刹aI__KL紮僭",
  "M'RE_6!FiOO站uT%倉9KYLhS@R3FWJ#PnFvEKF3N!S,F5P'M]Q[WtH3I6GS債YTOnEINyQ 砦TkVNHXizEO冊柵策~04E1Y責凄[]Xv處倜刺剔b/SyFeG&K$F|`$Yne%kv[eF#仟QMKZO.RCX[[jHDTvX_Z[O(YWH?KmI)P=EbI_凸MKF[c!R|dzn=wREORx僉f.uCHPY9LKQlEHn&Ek堞IYQAT<p8N/J@諜J?K[廳Z@ZCz_N;Y#iYQo切剃替WdHnpNk%T#EQcf初F)Koj%G^EyUH~04K1Y椒EjGHW*F[YPFl.G1E]WVJAF$F;J`YRGqO|EJED促Y'燭Ulq,MI寸P Z:邨叢QbO8R>GJM0總K8RDl#撮催i;b5墜bkGXTAF1FnQ6]ZMc_GI'WtM*KZH(EZEsI-)FIN8NRJ6丑畜PDIVEyF?KkWda8<FKH+春Mle?出朮黜充oRj/蟲F2;悴膵KS~04C1Y贅取F*JZPEJZ炊qYFAFtGTg=P)_-O0側@3Rlk|kP層侈FdUAXiI?Jf]:PkGwP=PYEAF4OVEPNvEUI,L1RD^$ZmM;T|則FE飭親七柒YM侵hZg:S(G^WqPO針IX蟄秤Eo快他UOFbNhGeYeHwFJQIK$舵陀NiEM倬MyJPK=度托拓擢IBI+[IEOPw7託~04A1Y鐸呑IoHt[GKWaWS?Ewk-jS奪脫探眈`2i@塔gaTj宕L'tS糖蕩兌LOSpXjH>c*GWFGn?U1Jfe-M;[g宅擇ds撑F:兎LnMa討慟Y0洞痛TRK$|(堆xS腿ZkXI]D偸_6Ew_@透eV慝v^闖坡M6OKR%K(EoL(TFF#S#JjPAY]N-ejc+判SSt2d_LF販MNKq~0481Y阪八L-qc佩TwftRPY^GQR]FyY3qtMh彭sq",
  "I$uJ愎便FWy%sUa#K&JatYYzKr貶坪Y!`:萍Vp吠XjNDFFEIWF肺QmtAG?佈OZ)#I0F;JiXtJsL07Fl暴泡FL]VL,^^EsIiI<EsOyFLXmM0V:L?幅]|EJ`1JT輻俵L3jgJHV'LrRyUbQpp^PTi DyI8~04G1Y品稟楓諷Hgi1Gt彼N&疲Gjy0[9UD匹h0FPk&XtIOEJU<Zx馝乏逼下H^Q:TDU:Z'WPZbq%P2T5O-XAS,壑LR虐RSzz寒R%EFT?W3LwFHF>q>Fc閑!G+I<割轄函K3FTFsEH檻MKssQxt+Oy[h合G-盒sboxEQFO亢F.d|GfMcKaKJRfGAQ.IcvJHwI~0Kx1Z行!項亥IjQGM1J&JoElV<ZoPCLW蟹JIFVF<Tw`iG8劾核倖nt_.荇S:享TALH珦鄕X^GxEpEd噓KQ虛Ot憲`A^6軒歇險OJ奕爀赫bG俔k?K7M#QLW^O^M*EVEgN!EEUxE@G.PWVB見賢TBVM孑穴m7rk嫌俠NlUlO]Vic*T[mx#LFq0T<亨LGG:T~1ou1Z形l%JlHJEmF&GPK]FGp>QAG,ZgFbMRV,兮mTIBFNT'蕙_HN]U^乎EfUlQBEFFJN/KxMa3O`F$T`I7F-FNFjFdEn*F;KyHiEVFMImLuNfHhLoJ$J$EvIH2H(PFGaY[Q=F,惑HX酷婚g<[MEiV(魂忽GJ笏哄cCkfF<EyOKhZ`rO0鴻化I/WFq8VXS?~04K1Y禍ER_JHQWOG=H|db廓擴EX確!Ij丸Z OSK[M&K-N/ZE晥JMUGNCNB]d還b.Iv活IOQV豁a,凰i/HpFmFqE[=S,!NXMnIWF1FaJINGJJSpF-YDPH_QVd]A匯OL](FVGEESHwQXFeO6NIIzG/MKe;NKI/O=OrK 劃獲宖p2鐄哮IQRgb4E_",
  "HWJ5S#EZ~04H1Y爻o0u]_/侯F1NyF;EOHaE^^+HaZqbsL!逅勛9TLF1焄FRF3薰QL暈薨喧uyd[|g卉KU毁彙F+PuLFdS諱PprJ休携ieR*vB恤譎|)兇FwH%洶胸黑昕SCTPSs吃^'紇k.欠>*吸hfjFzrK8僖GvO[G<F)MqH0MTO*D|FaPqFOdHEA!GZXtE|U3dS~3Yn34"]

/-- Whether a pointer lies in the area of the syllables outside EUC-KR. -/
def hangulExtension (p : Nat) : Bool :=
  let l := p / 190
  let t := p % 190
  l < 70 && (t < 26 || (32 ≤ t && t < 58) || (64 ≤ t && (l < 32 || t < 96)))

/-- The characters of the two-byte codes, by pointer. -/
def hangulTable : Array Char :=
  let explicit := (undelta 30 540 (unpack hangulPacked)).toList
  fillArea hangulExtension 0 #[] (missingChars 0xac00 0xd7a4 explicit) explicit

end CriticalCss.Text
